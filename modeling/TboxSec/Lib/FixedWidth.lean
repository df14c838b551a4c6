import Mathlib.Algebra.Ring.Int.Defs
import Mathlib.Algebra.Ring.Nat
import Mathlib.Tactic.SplitIfs

/-!
# Numbers of a fixed width

The signed numbers of 64 bits are the integers in `IsInt64`. What an operation makes of an exact
result that is none of them has two readings here, and a program that is generic in the operation
can be read either way:

* `wrapSigned` brings the result back modulo `2 ^ 64`, as a machine does;
* `int64?` has no value for it, as a language in which an overflow is undefined.

Both keep a result that is in range (`wrapSigned_of_isInt64`, `int64?_eq_some_iff`).
-/

namespace TboxSec

/-- The numbers of a signed type of 64 bits. -/
def IsInt64 (n : ℤ) : Prop := -2 ^ 63 ≤ n ∧ n < 2 ^ 63

instance (n : ℤ) : Decidable (IsInt64 n) := inferInstanceAs (Decidable (_ ∧ _))

/-- The conversion to an unsigned number of 64 bits. -/
def wrapUnsigned (n : ℤ) : ℕ := (n % 2 ^ 64).toNat

/-- The conversion to a signed number of 64 bits. -/
def wrapSigned (n : ℤ) : ℤ := n.bmod (2 ^ 64)

/-- The conversion to an unsigned number of 32 bits. -/
def wrapUnsigned32 (n : ℤ) : ℕ := (n % 2 ^ 32).toNat

/-- The result of an operation of 64 bits, if it does not overflow. -/
def int64? (n : ℤ) : Option ℤ := if IsInt64 n then some n else none

/-- On a natural number the unsigned conversion is the remainder. -/
theorem wrapUnsigned_natCast (n : ℕ) : wrapUnsigned n = n % 2 ^ 64 := by
  unfold wrapUnsigned
  omega

@[simp]
theorem wrapSigned_wrapSigned (n : ℤ) : wrapSigned (wrapSigned n) = wrapSigned n :=
  Int.bmod_bmod

theorem wrapUnsigned_of_lt {n : ℕ} (h : n < 2 ^ 64) : wrapUnsigned n = n := by
  rw [wrapUnsigned_natCast]
  exact Nat.mod_eq_of_lt h

theorem wrapUnsigned32_of_lt {n : ℕ} (h : n < 2 ^ 32) : wrapUnsigned32 n = n := by
  unfold wrapUnsigned32
  omega

/-- A number in range is kept. -/
theorem wrapSigned_of_isInt64 {n : ℤ} (h : IsInt64 n) : wrapSigned n = n := by
  obtain ⟨hlow, hhigh⟩ := h
  rw [wrapSigned, Int.bmod_def]
  split_ifs <;> omega

/-- The conversion does not raise a number that is not below the range. -/
theorem wrapSigned_le {n : ℤ} (h : -2 ^ 63 ≤ n) : wrapSigned n ≤ n := by
  rw [wrapSigned, Int.bmod_def]
  split_ifs <;> omega

/-- The checked operation has a value exactly in range. -/
theorem int64?_eq_some_iff {n r : ℤ} : int64? n = some r ↔ IsInt64 n ∧ n = r := by
  unfold int64?
  split_ifs with h
  · simp [h]
  · simp [h]

/-- A checked operation with a continuation has a value if the operation is in range and the
continuation has one. -/
theorem isSome_int64?_bind {α : Type} {n : ℤ} {k : ℤ → Option α} :
    ((int64? n).bind k).isSome = true ↔ IsInt64 n ∧ (k n).isSome = true := by
  unfold int64?
  split_ifs with h
  · simp [h]
  · simp [h]

end TboxSec
