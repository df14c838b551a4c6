import Mathlib.Logic.Relation

/-!
# Programs that can be cut short

A `Crash.Prog σ δ α` runs on a machine state `σ` of which only a part `δ` is durable. It
either finishes with a value and a new state, or is cut short by a crash, and then nothing
but the durable part is left.

`Prog.wp m Q C s` is the weakest precondition of the program `m`: from `s`, every finished
run meets `Q` and every cut run leaves a durable part that meets the **crash condition**
`C`. The rules are the usual ones, with the crash condition carried through unchanged:
`wp_bind` runs the second program from every finished state of the first, `wp_mono`
weakens both conditions at once. `Keeps f m` is the frame: every finished run of `m` leaves
the part `f` of the state alone, and `Keeps.bind` passes this through a sequence.
-/

namespace TboxSec.Crash

universe u v w w'

/-- How a run ends: with a value and a machine state, or with the durable part alone. -/
inductive Outcome (σ : Type u) (δ : Type v) (α : Type w) where
  | done (a : α) (s : σ)
  | crashed (d : δ)

/-- A program on machine states `σ` with durable part `δ`. -/
def Prog (σ : Type u) (δ : Type v) (α : Type w) := σ → Outcome σ δ α

variable {σ : Type u} {δ : Type v} {α : Type w} {β : Type w'}

/-- What a run must leave behind: `Q` when it finishes, `C` when it is cut short. -/
def Outcome.Meets (Q : α → σ → Prop) (C : δ → Prop) : Outcome σ δ α → Prop
  | .done a s => Q a s
  | .crashed d => C d

@[simp]
theorem Outcome.meets_done {Q : α → σ → Prop} {C : δ → Prop} {a : α} {s : σ} :
    (Outcome.done a s).Meets Q C ↔ Q a s := Iff.rfl

@[simp]
theorem Outcome.meets_crashed {Q : α → σ → Prop} {C : δ → Prop} {d : δ} :
    (Outcome.crashed d : Outcome σ δ α).Meets Q C ↔ C d := Iff.rfl

theorem Outcome.Meets.mono {Q Q' : α → σ → Prop} {C C' : δ → Prop} {o : Outcome σ δ α}
    (h : o.Meets Q C) (hQ : ∀ a s, Q a s → Q' a s) (hC : ∀ d, C d → C' d) :
    o.Meets Q' C' := by
  cases o with
  | done a s => exact hQ a s h
  | crashed d => exact hC d h

namespace Prog

/-- Return a value without touching the state. -/
def pure (a : α) : Prog σ δ α := fun s => .done a s

/-- Run `m`, then `f` on its value; a crash of `m` is a crash of the whole. -/
def bind (m : Prog σ δ α) (f : α → Prog σ δ β) : Prog σ δ β := fun s =>
  match m s with
  | .done a s' => f a s'
  | .crashed d => .crashed d

instance : Monad (Prog σ δ) where
  pure := Prog.pure
  bind := Prog.bind

/-- Read a part of the state. -/
def gets (f : σ → α) : Prog σ δ α := fun s => .done (f s) s

/-- Change the state. -/
def modify (f : σ → σ) : Prog σ δ Unit := fun s => .done () (f s)

/-- The weakest precondition: finished runs meet `Q`, cut runs meet `C`. -/
def wp (m : Prog σ δ α) (Q : α → σ → Prop) (C : δ → Prop) (s : σ) : Prop :=
  (m s).Meets Q C

variable {Q : α → σ → Prop} {C : δ → Prop} {s : σ}

@[simp]
theorem wp_pure {a : α} : wp (Pure.pure a : Prog σ δ α) Q C s ↔ Q a s := Iff.rfl

@[simp]
theorem wp_gets {f : σ → α} : wp (gets f : Prog σ δ α) Q C s ↔ Q (f s) s := Iff.rfl

@[simp]
theorem wp_modify {f : σ → σ} {Q : Unit → σ → Prop} :
    wp (modify f : Prog σ δ Unit) Q C s ↔ Q () (f s) := Iff.rfl

instance : LawfulMonad (Prog σ δ) :=
  LawfulMonad.mk' _
    (fun m => funext fun s => by
      change Prog.bind m (fun a => Prog.pure a) s = m s
      unfold Prog.bind
      cases m s <;> rfl)
    (fun _ _ => rfl)
    fun m f g => funext fun s => by
      change Prog.bind (Prog.bind m f) g s = Prog.bind m (fun a => Prog.bind (f a) g) s
      unfold Prog.bind
      cases m s <;> rfl

/-- A sequence whose first part has finished goes on with its second part. -/
theorem bind_of_done {α β : Type w} {m : Prog σ δ α} {f : α → Prog σ δ β} {a : α} {s s' : σ}
    (h : m s = .done a s') : (m >>= f) s = f a s' := by
  change Prog.bind m f s = f a s'
  unfold Prog.bind
  rw [h]

/-- A sequence has finished just if both parts have. -/
theorem bind_eq_done {α β : Type w} {m : Prog σ δ α} {f : α → Prog σ δ β} {b : β} {s s' : σ} :
    (m >>= f) s = .done b s' ↔ ∃ a s₁, m s = .done a s₁ ∧ f a s₁ = .done b s' := by
  refine ⟨fun h => ?_, fun ⟨a, s₁, hm, hf⟩ => (bind_of_done hm).trans hf⟩
  change Prog.bind m f s = _ at h
  unfold Prog.bind at h
  cases hm : m s with
  | done a s₁ =>
    rw [hm] at h
    exact ⟨a, s₁, rfl, h⟩
  | crashed d =>
    rw [hm] at h
    cases h

theorem gets_bind {f : σ → α} {β : Type w} {g : α → Prog σ δ β} {s : σ} :
    (gets f >>= g) s = g (f s) s := rfl

/-- **Sequencing**: the second program starts from every finished state of the first. -/
theorem wp_bind {α β : Type w} {m : Prog σ δ α} {f : α → Prog σ δ β} {Q : β → σ → Prop} :
    wp (m >>= f) Q C s ↔ wp m (fun a s' => wp (f a) Q C s') C s := by
  change ((Prog.bind m f) s).Meets Q C ↔ (m s).Meets _ C
  unfold Prog.bind
  cases m s with
  | done a s' => exact Iff.rfl
  | crashed d => exact Iff.rfl

/-- **Consequence**: both conditions may be weakened. -/
theorem wp_mono {m : Prog σ δ α} {Q' : α → σ → Prop} {C' : δ → Prop}
    (h : wp m Q C s) (hQ : ∀ a s', Q a s' → Q' a s') (hC : ∀ d, C d → C' d) :
    wp m Q' C' s :=
  Outcome.Meets.mono h hQ hC

/-- Two specifications of one program hold together. -/
theorem wp_and {m : Prog σ δ α} {Q' : α → σ → Prop} {C' : δ → Prop}
    (h : wp m Q C s) (h' : wp m Q' C' s) :
    wp m (fun a s' => Q a s' ∧ Q' a s') (fun d => C d ∧ C' d) s := by
  unfold wp at *
  cases hm : m s with
  | done a s' => rw [hm] at h h'; exact ⟨h, h'⟩
  | crashed d => rw [hm] at h h'; exact ⟨h, h'⟩

/-- A finished run meets the postcondition. -/
theorem wp_done {m : Prog σ δ α} {a : α} {s' : σ} (h : wp m Q C s) (hm : m s = .done a s') :
    Q a s' := by
  unfold wp at h
  rwa [hm] at h

/-- A cut run meets the crash condition. -/
theorem wp_crashed {m : Prog σ δ α} {d : δ} (h : wp m Q C s) (hm : m s = .crashed d) :
    C d := by
  unfold wp at h
  rwa [hm] at h

/-! ### What a program leaves alone -/

/-- Every finished run leaves the part `f` of the state as it was. -/
def Keeps {τ : Type*} (f : σ → τ) (m : Prog σ δ α) : Prop :=
  ∀ s, wp m (fun _ s' => f s' = f s) (fun _ => True) s

section Keeps

variable {τ : Type*} {f : σ → τ}

theorem keeps_pure (a : α) : Keeps f (Pure.pure a : Prog σ δ α) := fun _ => rfl

theorem keeps_gets (g : σ → α) : Keeps f (gets g : Prog σ δ α) := fun _ => rfl

theorem keeps_modify {g : σ → σ} (hg : ∀ s, f (g s) = f s) :
    Keeps f (modify g : Prog σ δ Unit) := hg

theorem Keeps.bind {α β : Type w} {m : Prog σ δ α} {g : α → Prog σ δ β} (hm : Keeps f m)
    (hg : ∀ a, Keeps f (g a)) : Keeps f (m >>= g) := by
  intro s
  refine wp_bind.mpr (wp_mono (hm s) (fun a s₁ h₁ => ?_) fun _ h => h)
  exact wp_mono (hg a s₁) (fun b s₂ h₂ => h₂.trans h₁) fun _ h => h

end Keeps

end Prog

end TboxSec.Crash
