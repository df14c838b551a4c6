import TboxSec.CertStore.Recovery
import TboxSec.CertStore.Search

/-!
# How an opening ends

Once the directory of generations is there, the end of `openAndRecover` is a function of the tree
and the store, `Platform.openResult`: what is done to the system calls of its clean-up, and the
clean-up itself, have no part in it.

* `open_done`: a call that was not killed has ended as `openResult` says, or could not make the
  directory of generations and has answered `false`.
* `open_of_not_returned`: where the end is no return, because a manifest throws or the search has
  no end, the clean-up is not reached.

So what recovery adopts can be read off the files before it, without a run of the program.
-/

namespace TboxSec.CertStore

open FileSystem Crash

namespace Platform

variable {P : Platform} {t t' : Files} {d d' d₁ : Disk Bytes UInt8} {e : Env} {st : Store}
variable {a : Opened × Store}

/-- What `openAndRecover` comes to, over a tree with the directory of generations. -/
def openResult (P : Platform) (st : Store) (t : Files) : Opened × Store :=
  match P.readCurrentPointer t with
  | none => (.threw, st)
  | some none => (.returned true, ⟨none, true⟩)
  | some (some ptr) =>
    match P.search t ptr with
    | .found g => (.returned true, ⟨some g, true⟩)
    | .exhausted => (.returned false, { st with recovered := false })
    | .threw => (.threw, st)
    | .endless => (.endless, st)

/-- Looking at the tree does nothing to it. -/
private theorem look_bind {α β : Type} (g : Files → α) (f : α → Program Bytes UInt8 β)
    (s : Session Bytes UInt8) : (look g >>= f) s = f (g s.disk.tree) s := rfl

/-- A clean-up before a result leaves the result as it is. -/
private theorem eq_of_cleanup {keepA keepB : Bytes} {b : Opened × Store}
    {s s' : Session Bytes UInt8}
    (h : (P.cleanupOrphans e keepA keepB >>= fun _ => pure b) s = .done a s') : a = b := by
  obtain ⟨-, s₁, -, hpure⟩ := Prog.bind_eq_done.mp h
  cases hpure
  rfl

/-- **The end of an opening**: its directory could not be made, or it ends as the tree says. -/
theorem open_done {s s' : Session Bytes UInt8} (h : P.openAndRecover e st s = .done a s') :
    ((∃ s₁, makeDirs P.generationsDir s = .done false s₁) ∧ a = (.returned false, st)) ∨
      ∃ s₁, makeDirs P.generationsDir s = .done true s₁ ∧ a = P.openResult st s₁.disk.tree := by
  rw [openAndRecover] at h
  obtain ⟨made, s₁, hmade, h⟩ := Prog.bind_eq_done.mp h
  cases made with
  | false =>
    cases h
    exact .inl ⟨⟨_, hmade⟩, rfl⟩
  | true =>
    refine .inr ⟨s₁, hmade, ?_⟩
    rw [if_neg (by decide), look_bind] at h
    rw [openResult]
    revert h
    match P.readCurrentPointer s₁.disk.tree with
    | none =>
      intro h
      cases h
      rfl
    | some none => exact fun h => eq_of_cleanup h
    | some (some ptr) =>
      dsimp only
      rw [look_bind]
      cases P.search s₁.disk.tree ptr with
      | found g => exact fun h => eq_of_cleanup h
      | exhausted => exact fun h => eq_of_cleanup h
      | threw =>
        intro h
        cases h
        rfl
      | endless =>
        intro h
        cases h
        rfl

/-- An opening that neither returns nor cleans up has ended, with nothing done. -/
theorem open_of_not_returned {s s₁ : Session Bytes UInt8}
    (hmade : makeDirs P.generationsDir s = .done true s₁)
    (hne : ∀ b, (P.openResult st s₁.disk.tree).1 ≠ .returned b) :
    P.openAndRecover e st s = .done (P.openResult st s₁.disk.tree) s₁ := by
  rw [openAndRecover, Prog.bind_of_done hmade, if_neg (by decide), look_bind]
  revert hne
  rw [openResult]
  match P.readCurrentPointer s₁.disk.tree with
  | none => exact fun _ => rfl
  | some none => exact fun hne => absurd rfl (hne true)
  | some (some ptr) =>
    dsimp only
    rw [look_bind]
    cases P.search s₁.disk.tree ptr with
    | found g => exact fun hne => absurd rfl (hne true)
    | exhausted => exact fun hne => absurd rfl (hne false)
    | threw => exact fun _ => rfl
    | endless => exact fun _ => rfl

end Platform

end TboxSec.CertStore
