import TboxSec.Lib.Machine

/-!
# Purging a run

A label is idle in a state if its step leaves the state alone. Deleting the idle labels of a run
changes nothing but the number of replies (`run_purge`, `replies_purge`) and leaves none of them
behind (`along_purge`): what the others do, and what they are told, does not depend on them.
Whether a label is idle may depend on the state it meets, so `purge` deletes along the run.

`repliesTo` are the replies to the labels of one kind.

This is how a set of callers is shown to be no channel: if all of their labels are idle, a run and
the run without them end in one state, and everybody else is told the same in both.
-/

namespace TboxSec.Machine

universe u v w

variable {σ : Type u} {ℓ : Type v} {ρ : Type w} (M : Machine σ ℓ ρ) (idle : σ → ℓ → Bool)

/-- The labels of a run that are not idle where they stand. -/
def purge : σ → List ℓ → List ℓ
  | _, [] => []
  | s, l :: ls =>
    if idle s l then purge (M.step s l).1 ls else l :: purge (M.step s l).1 ls

/-- The replies of a run to the labels that `c` selects where they stand. -/
def repliesTo (c : σ → ℓ → Bool) : σ → List ℓ → List ρ
  | _, [] => []
  | s, l :: ls =>
    if c s l then (M.step s l).2 :: repliesTo c (M.step s l).1 ls
    else repliesTo c (M.step s l).1 ls

variable {M idle}

/-- The idle labels do not matter to the state. -/
theorem run_purge (h : ∀ s l, idle s l = true → (M.step s l).1 = s) (s : σ) (ls : List ℓ) :
    M.run s (M.purge idle s ls) = M.run s ls := by
  induction ls generalizing s with
  | nil => rfl
  | cons l ls ih =>
    rw [purge, run_cons]
    split_ifs with hidle
    · have hstep := h s l hidle
      rw [hstep]
      exact ih s
    · rw [run_cons]
      exact ih _

/-- **The idle labels do not matter to the others.** -/
theorem replies_purge (h : ∀ s l, idle s l = true → (M.step s l).1 = s) (s : σ) (ls : List ℓ) :
    M.replies s (M.purge idle s ls) = M.repliesTo (fun s l => !idle s l) s ls := by
  induction ls generalizing s with
  | nil => rfl
  | cons l ls ih =>
    rw [purge, repliesTo]
    by_cases hidle : idle s l = true
    · have hstep := h s l hidle
      rw [if_pos hidle, hidle, Bool.not_true, if_neg Bool.false_ne_true, hstep]
      exact ih s
    · rw [if_neg hidle, if_pos (by simpa using hidle), replies, ih]

/-- A purged run meets no idle label. -/
theorem along_purge (h : ∀ s l, idle s l = true → (M.step s l).1 = s) (s : σ) (ls : List ℓ) :
    M.Along (fun s l => idle s l = false) s (M.purge idle s ls) := by
  induction ls generalizing s with
  | nil => trivial
  | cons l ls ih =>
    rw [purge]
    split_ifs with hidle
    · rw [h s l hidle]
      exact ih s
    · exact ⟨by simpa using hidle, ih _⟩

end TboxSec.Machine
