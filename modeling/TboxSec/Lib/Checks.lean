import Mathlib.Data.List.Basic

/-!
# Ordered checks

A validation routine is a list of checks made in order, each with the code it rejects with;
the first failing one decides. `firstReject` runs such a list, and `firstReject_eq_none_iff`
says what passing all of them means.

Routines written so are compared by their lists, and `exists_of_firstReject_eq_some` finds the
check behind a code in its list.
-/

namespace TboxSec

universe u

/-- The code of the first failing check, `none` when every check passes. A check is the
condition that **rejects**, with its code. -/
def firstReject {ε : Type u} : List (Bool × ε) → Option ε
  | [] => none
  | (bad, code) :: rest => if bad then some code else firstReject rest

/-- Every check passes exactly when no rejecting condition holds. -/
theorem firstReject_eq_none_iff {ε : Type u} {l : List (Bool × ε)} :
    firstReject l = none ↔ ∀ c ∈ l, c.1 = false := by
  induction l with
  | nil => simp [firstReject]
  | cons c l ih =>
    obtain ⟨bad, code⟩ := c
    cases bad <;> simp [firstReject, ih]

/-- A rejection comes from one of the checks. -/
theorem exists_of_firstReject_eq_some {ε : Type u} {l : List (Bool × ε)} {e : ε}
    (h : firstReject l = some e) : (true, e) ∈ l := by
  induction l with
  | nil => simp [firstReject] at h
  | cons c l ih =>
    obtain ⟨bad, code⟩ := c
    cases bad with
    | true =>
      simp only [firstReject, if_true, Option.some.injEq] at h
      simp [h]
    | false =>
      simp only [firstReject, Bool.false_eq_true, if_false] at h
      exact List.mem_cons_of_mem _ (ih h)

end TboxSec
