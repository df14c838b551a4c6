import Mathlib.Data.List.Induction

/-!
# Runs of a labelled machine

A `Machine σ ℓ ρ` answers every label `ℓ` (a call together with everything its environment
does during it) with a new state and a reply. Its runs are lists of labels, oldest first.

* `Machine.Along c s ls`: every step of the run `ls` from `s` meets the **step condition**
  `c`, a condition on the state before the step and the label. `along_append` splits a run.
* `Machine.run_invariant`: what holds at first and is kept by every step that meets the
  condition holds at the end of every such run.
* `Machine.run_history`: the same for a property that also speaks of the labels so far.
* `Machine.run_replies`: the same for a property that also speaks of the replies so far.
-/

namespace TboxSec

universe u v w

/-- A deterministic machine with labelled steps and replies. -/
structure Machine (σ : Type u) (ℓ : Type v) (ρ : Type w) where
  /-- One step: the new state and the reply. -/
  step : σ → ℓ → σ × ρ

namespace Machine

variable {σ : Type u} {ℓ : Type v} {ρ : Type w} (M : Machine σ ℓ ρ)

/-- The state after a run. -/
def run (s : σ) (ls : List ℓ) : σ := ls.foldl (fun s l => (M.step s l).1) s

@[simp]
theorem run_nil (s : σ) : M.run s [] = s := rfl

@[simp]
theorem run_cons (s : σ) (l : ℓ) (ls : List ℓ) :
    M.run s (l :: ls) = M.run (M.step s l).1 ls := rfl

theorem run_append (s : σ) (ls ls' : List ℓ) :
    M.run s (ls ++ ls') = M.run (M.run s ls) ls' := by
  simp [run, List.foldl_append]

/-- The replies of a run, oldest first. -/
def replies : σ → List ℓ → List ρ
  | _, [] => []
  | s, l :: ls => (M.step s l).2 :: replies (M.step s l).1 ls

@[simp]
theorem replies_nil (s : σ) : M.replies s [] = [] := rfl

private theorem replies_append (s : σ) (ls ls' : List ℓ) :
    M.replies s (ls ++ ls') = M.replies s ls ++ M.replies (M.run s ls) ls' := by
  induction ls generalizing s with
  | nil => rfl
  | cons l ls ih => simp [replies, ih]

/-- A reply in the middle of a run answers the label at its place. -/
theorem exists_of_replies_eq {s : σ} {ls : List ℓ} {past : List ρ} {r : ρ} {future : List ρ}
    (h : M.replies s ls = past ++ r :: future) :
    ∃ before l after, ls = before ++ l :: after ∧ past = M.replies s before ∧
      r = (M.step (M.run s before) l).2 := by
  induction ls generalizing s past with
  | nil => simp at h
  | cons l ls ih =>
    rw [replies] at h
    cases past with
    | nil =>
      obtain ⟨rfl, -⟩ := List.cons_eq_cons.mp h
      exact ⟨[], l, ls, rfl, rfl, rfl⟩
    | cons p past =>
      obtain ⟨rfl, hrest⟩ := List.cons_eq_cons.mp h
      obtain ⟨before, l', after, rfl, rfl, rfl⟩ := ih hrest
      exact ⟨l :: before, l', after, rfl, rfl, rfl⟩

/-- Every step of the run meets the step condition `c`. -/
def Along (c : σ → ℓ → Prop) : σ → List ℓ → Prop
  | _, [] => True
  | s, l :: ls => c s l ∧ Along c (M.step s l).1 ls

instance decidableAlong (c : σ → ℓ → Prop) [∀ s l, Decidable (c s l)] :
    ∀ s ls, Decidable (M.Along c s ls)
  | _, [] => .isTrue trivial
  | s, l :: ls =>
    haveI := decidableAlong c (M.step s l).1 ls
    inferInstanceAs (Decidable (c s l ∧ M.Along c (M.step s l).1 ls))

theorem along_append {c : σ → ℓ → Prop} {s : σ} {ls ls' : List ℓ} :
    M.Along c s (ls ++ ls') ↔ M.Along c s ls ∧ M.Along c (M.run s ls) ls' := by
  induction ls generalizing s with
  | nil => simp [Along]
  | cons l ls ih => simp [Along, ih, and_assoc]

theorem along_true (s : σ) (ls : List ℓ) : M.Along (fun _ _ => True) s ls := by
  induction ls generalizing s with
  | nil => trivial
  | cons l ls ih => exact ⟨trivial, ih _⟩

/-- A step condition may be strengthened by what is known of the labels. -/
theorem along_mono {c c' : σ → ℓ → Prop} {s : σ} {ls : List ℓ}
    (hc : ∀ s, ∀ l ∈ ls, c s l → c' s l) (h : M.Along c s ls) : M.Along c' s ls := by
  induction ls generalizing s with
  | nil => trivial
  | cons l ls ih =>
    exact ⟨hc s l (List.mem_cons_self ..) h.1,
      ih (fun s l' hl' => hc s l' (List.mem_cons_of_mem _ hl')) h.2⟩

/-- **Equivalent conditions.** Two step conditions that agree under an invariant hold of the
same runs, if the steps that meet the first one keep the invariant. -/
theorem along_congr {c c' : σ → ℓ → Prop} {I : σ → Prop} {s : σ} {ls : List ℓ} (h : I s)
    (hiff : ∀ s, ∀ l ∈ ls, I s → (c s l ↔ c' s l))
    (hstep : ∀ s, ∀ l ∈ ls, I s → c s l → I (M.step s l).1) :
    M.Along c s ls ↔ M.Along c' s ls := by
  induction ls generalizing s with
  | nil => exact Iff.rfl
  | cons l ls ih =>
    have hrest : I (M.step s l).1 →
        (M.Along c (M.step s l).1 ls ↔ M.Along c' (M.step s l).1 ls) := fun hI =>
      ih hI (fun s' l' hl' => hiff s' l' (List.mem_cons_of_mem _ hl'))
        fun s' l' hl' => hstep s' l' (List.mem_cons_of_mem _ hl')
    have hl := hiff s l (List.mem_cons_self ..) h
    constructor
    · rintro ⟨hc, hcs⟩
      exact ⟨hl.mp hc, (hrest (hstep s l (List.mem_cons_self ..) h hc)).mp hcs⟩
    · rintro ⟨hc', hcs'⟩
      have hc := hl.mpr hc'
      exact ⟨hc, (hrest (hstep s l (List.mem_cons_self ..) h hc)).mpr hcs'⟩

/-- The labels follow one another in time, from `t` on. -/
def Timed {τ : Type*} [LE τ] (start finish : ℓ → τ) : τ → List ℓ → Prop
  | _, [] => True
  | t, l :: ls => t ≤ start l ∧ Timed start finish (finish l) ls

/-- **Equivalent conditions over time.** The same for an invariant that speaks of the time at
which the last step finished. -/
theorem along_congr_timed {τ : Type*} [LE τ] {start finish : ℓ → τ} {c c' : σ → ℓ → Prop}
    {I : τ → σ → Prop} {t : τ} {s : σ} {ls : List ℓ} (h : I t s) (hls : Timed start finish t ls)
    (hiff : ∀ t s l, t ≤ start l → I t s → (c s l ↔ c' s l))
    (hstep : ∀ t s l, t ≤ start l → I t s → I (finish l) (M.step s l).1) :
    M.Along c s ls ↔ M.Along c' s ls := by
  induction ls generalizing t s with
  | nil => exact Iff.rfl
  | cons l ls ih =>
    obtain ⟨hstart, hrest⟩ := hls
    exact and_congr (hiff t s l hstart h) (ih (hstep t s l hstart h) hrest)

/-- **Invariants over runs.** -/
theorem run_invariant {c : σ → ℓ → Prop} {I : σ → Prop}
    (hstep : ∀ s l, I s → c s l → I (M.step s l).1) {s : σ} {ls : List ℓ}
    (h : I s) (hc : M.Along c s ls) : I (M.run s ls) := by
  induction ls generalizing s with
  | nil => exact h
  | cons l ls ih => exact ih (hstep s l h hc.1) hc.2

/-- **Invariants that speak of the labels so far.** -/
theorem run_history {c : σ → ℓ → Prop} {I : List ℓ → σ → Prop} {s₀ : σ} (h₀ : I [] s₀)
    (hstep : ∀ past s l, I past s → c s l → I (past ++ [l]) (M.step s l).1)
    {ls : List ℓ} (hc : M.Along c s₀ ls) : I ls (M.run s₀ ls) := by
  induction ls using List.reverseRecOn with
  | nil => exact h₀
  | append_singleton ls l ih =>
    rw [along_append] at hc
    rw [run_append]
    exact hstep ls _ l (ih hc.1) hc.2.1

/-- **Invariants that speak of the replies so far.** -/
theorem run_replies {c : σ → ℓ → Prop} {I : List ρ → σ → Prop} {s₀ : σ} (h₀ : I [] s₀)
    (hstep : ∀ rs s l, I rs s → c s l → I (rs ++ [(M.step s l).2]) (M.step s l).1)
    {ls : List ℓ} (hc : M.Along c s₀ ls) : I (M.replies s₀ ls) (M.run s₀ ls) := by
  induction ls using List.reverseRecOn with
  | nil => exact h₀
  | append_singleton ls l ih =>
    rw [along_append] at hc
    rw [run_append, replies_append]
    exact hstep _ _ l (ih hc.1) hc.2.1

end Machine

end TboxSec
