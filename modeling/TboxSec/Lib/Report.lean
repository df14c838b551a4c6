import Mathlib.Data.List.Basic

/-!
# Reports

A check that reports: it adds findings to those of the checks before it, and goes on. A
conversion may throw, which ends the whole run without a report (`none`).

`Clean serious r` says that a run comes to its end and reports nothing serious. The simp set
takes it through the ways to put checks together.

* `emit`, `andThen`, `reading`, `whenSome` and `forEach` are the ways to build a check.
* For each of them there is a lemma `clean_…` that is an equivalence, so that what a run accepts
  is computed by rewriting, and nothing is lost on the way.
-/

namespace TboxSec

universe u v

/-- The findings of a check, `none` if an exception leaves it. -/
def Report (φ : Type u) : Type u := Option (List φ)

namespace Report

variable {φ : Type u} {α : Type v}

/-- Nothing to report. -/
def pass : Report φ := some []

/-- One finding. -/
def emit (f : φ) : Report φ := some [f]

/-- A check after another. -/
def andThen (r s : Report φ) : Report φ := Option.bind r fun fs => Option.map (fs ++ ·) s

instance : Append (Report φ) := ⟨andThen⟩

/-- A check of a value that is read first, or cannot be read. -/
def reading (value : Option α) (f : α → Report φ) : Report φ := value.bind f

/-- A check of a value, if there is one. -/
def whenSome : Option α → (α → Report φ) → Report φ
  | none, _ => pass
  | some a, f => f a

/-- A check of every element. -/
def forEach (f : α → Report φ) : List α → Report φ
  | [] => pass
  | a :: as => f a ++ forEach f as

/-- The run comes to its end and reports nothing serious. -/
def Clean (serious : φ → Bool) (r : Report φ) : Prop :=
  ∃ fs : List φ, r = some fs ∧ ∀ f ∈ fs, serious f = false

variable {serious : φ → Bool}

/-- A check that reports nothing reports nothing serious. -/
@[simp]
theorem clean_pass : Clean serious pass :=
  ⟨[], rfl, nofun⟩

/-- A single finding is clean when it is not serious. -/
@[simp]
theorem clean_emit {f : φ} : Clean serious (emit f) ↔ serious f = false := by
  constructor
  · rintro ⟨fs, hfs, h⟩
    obtain rfl := Option.some.inj hfs
    exact h f (List.mem_singleton_self f)
  · exact fun h => ⟨[f], rfl, fun g hg => List.mem_singleton.mp hg ▸ h⟩

/-- Two checks are clean together when each of them is. -/
@[simp]
theorem clean_append {r s : Report φ} :
    Clean serious (r ++ s) ↔ Clean serious r ∧ Clean serious s := by
  constructor
  · rintro ⟨fs, hfs, h⟩
    obtain ⟨xs, hr, hmap⟩ := Option.bind_eq_some_iff.mp hfs
    obtain ⟨ys, hs, rfl⟩ := Option.map_eq_some_iff.mp hmap
    exact ⟨⟨xs, hr, fun f hf => h f (List.mem_append_left _ hf)⟩,
      ⟨ys, hs, fun f hf => h f (List.mem_append_right _ hf)⟩⟩
  · rintro ⟨⟨xs, rfl, hxs⟩, ⟨ys, rfl, hys⟩⟩
    refine ⟨xs ++ ys, rfl, fun f hf => ?_⟩
    rcases List.mem_append.mp hf with hf | hf
    · exact hxs f hf
    · exact hys f hf

/-- A conversion has to succeed, and what is checked of the value has to be clean. -/
@[simp]
theorem clean_reading {value : Option α} {f : α → Report φ} :
    Clean serious (reading value f) ↔ ∃ a, value = some a ∧ Clean serious (f a) := by
  cases value with
  | none => exact ⟨fun ⟨_, h, _⟩ => (nomatch h), fun ⟨_, h, _⟩ => (nomatch h)⟩
  | some a => exact ⟨fun h => ⟨a, rfl, h⟩, fun ⟨_, ha, h⟩ => Option.some.inj ha ▸ h⟩

/-- An optional value is checked where it is there. -/
@[simp]
theorem clean_whenSome {value : Option α} {f : α → Report φ} :
    Clean serious (whenSome value f) ↔ ∀ a, value = some a → Clean serious (f a) := by
  cases value with
  | none => exact ⟨fun _ _ h => (nomatch h), fun _ => clean_pass⟩
  | some a => exact ⟨fun h _ ha => Option.some.inj ha ▸ h, fun h => h a rfl⟩

/-- A loop is clean when each of its rounds is. -/
@[simp]
theorem clean_forEach {f : α → Report φ} {l : List α} :
    Clean serious (forEach f l) ↔ ∀ a ∈ l, Clean serious (f a) := by
  induction l with
  | nil => exact ⟨fun _ _ h => (nomatch h), fun _ => clean_pass⟩
  | cons a l ih => rw [forEach, clean_append, ih, List.forall_mem_cons]

/-- A choice is clean when the branch that is taken is. -/
@[simp]
theorem clean_ite {c : Prop} [Decidable c] {r s : Report φ} :
    Clean serious (if c then r else s) ↔ (c → Clean serious r) ∧ (¬ c → Clean serious s) := by
  split_ifs with h
  · exact ⟨fun hr => ⟨fun _ => hr, fun hn => absurd h hn⟩, fun hr => hr.1 h⟩
  · exact ⟨fun hs => ⟨fun hc => absurd hc h, fun _ => hs⟩, fun hs => hs.2 h⟩

end Report

end TboxSec
