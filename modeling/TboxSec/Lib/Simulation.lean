import Mathlib.Logic.Relation
import TboxSec.Lib.Crash

/-!
# Simulation triples

A program on machine states is compared with an abstract transition system whose states it
does not store: the abstract state is a **ghost**. A `Simulation` relates machine states, and
what a crash leaves of them, to abstract states.

`S.Triple a s m Q` says that the program `m`, run from `s` while the ghost is at `a`, moves the
ghost along abstract steps: a finished run ends in related states that meet `Q`, and a run cut
short leaves a durable part that is related too. The ghost may move many times or not at all
for one machine step (`Triple.ghost`), and the triples of two programs in sequence chain the
two ghost paths (`Triple.bind`).
-/

namespace TboxSec.Crash

universe u v w x

/-- Machine states `σ` with durable part `δ`, related to abstract states `A`. -/
structure Simulation (σ : Type u) (δ : Type v) (A : Type w) where
  /-- An abstract step. -/
  step : A → A → Prop
  /-- A machine state stands for an abstract state. -/
  rel : σ → A → Prop
  /-- What a crash leaves stands for an abstract state. -/
  crashRel : δ → A → Prop

namespace Simulation

variable {σ : Type u} {δ : Type v} {A : Type w} (S : Simulation σ δ A)

/-- Any number of abstract steps. -/
abbrev Path : A → A → Prop := Relation.ReflTransGen S.step

/-- From `s`, with the ghost at `a`, the program moves the ghost along a path and keeps the
relation; a finished run meets `Q`. -/
def Triple {α : Type x} (a : A) (s : σ) (m : Prog σ δ α) (Q : α → σ → A → Prop) : Prop :=
  m.wp (fun r s' => ∃ a', S.Path a a' ∧ S.rel s' a' ∧ Q r s' a')
    (fun d => ∃ a', S.Path a a' ∧ S.crashRel d a') s

variable {S} {α β : Type x} {a : A} {s : σ} {m : Prog σ δ α} {Q : α → σ → A → Prop}

namespace Triple

theorem pure {r : α} (h : S.rel s a) (hQ : Q r s a) :
    S.Triple a s (Pure.pure r : Prog σ δ α) Q :=
  ⟨a, .refl, h, hQ⟩

/-- **Consequence.** The new postcondition may use the path and the relation. -/
theorem mono {Q' : α → σ → A → Prop} (h : S.Triple a s m Q)
    (hQ : ∀ r s' a', S.Path a a' → S.rel s' a' → Q r s' a' → Q' r s' a') :
    S.Triple a s m Q' := by
  refine Prog.wp_mono h ?_ fun _ hd => hd
  rintro r s' ⟨a', hpath, hrel, hq⟩
  exact ⟨a', hpath, hrel, hQ r s' a' hpath hrel hq⟩

/-- **The ghost moves first.** -/
theorem ghost {a₁ : A} (hpath : S.Path a a₁) (h : S.Triple a₁ s m Q) : S.Triple a s m Q := by
  refine Prog.wp_mono h ?_ ?_
  · rintro r s' ⟨a', hpath', hrel, hq⟩
    exact ⟨a', hpath.trans hpath', hrel, hq⟩
  · rintro d ⟨a', hpath', hrel⟩
    exact ⟨a', hpath.trans hpath', hrel⟩

/-- **Sequencing.** -/
theorem bind {f : α → Prog σ δ β} {R : β → σ → A → Prop} (h : S.Triple a s m Q)
    (hf : ∀ r s' a', S.Path a a' → S.rel s' a' → Q r s' a' → S.Triple a' s' (f r) R) :
    S.Triple a s (m >>= f) R := by
  refine Prog.wp_bind.mpr (Prog.wp_mono h ?_ fun _ hd => hd)
  rintro r s' ⟨a', hpath, hrel, hq⟩
  exact ghost hpath (hf r s' a' hpath hrel hq)

/-- Reading a part of the state costs nothing. -/
theorem gets_bind {α : Type x} {f : σ → α} {g : α → Prog σ δ β} {R : β → σ → A → Prop}
    (h : S.Triple a s (g (f s)) R) : S.Triple a s (Prog.gets f >>= g) R :=
  h

/-- A change of the state goes on from the changed state. -/
theorem modify_bind {β : Type} {f : σ → σ} {g : Unit → Prog σ δ β} {R : β → σ → A → Prop}
    (h : S.Triple a (f s) (g ()) R) :
    S.Triple a s (Prog.modify f >>= g) R :=
  h

end Triple

end Simulation

end TboxSec.Crash
