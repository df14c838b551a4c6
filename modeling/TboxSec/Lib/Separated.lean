import Mathlib.Data.List.Basic

/-!
# Texts joined by a separator

Two parts joined by a separator can be told apart where one of them does not contain it. In
general a joined text has several readings, and `sep_cases` says how two readings of one text lie
to each other: they are the same, or one of them has its separator inside a part of the other.

A text of many parts, each behind a separator, has a part between two separators only where it was
put there (`mem_of_part`).

`sep_inj_left` and `sep_inj_right` are the cases in which there is one reading only: the separator
occurs in neither of the first parts, or in neither of the second ones.
-/

namespace TboxSec

universe u

variable {α : Type u} {sep : α} {a b x y : List α}

/-- **Two readings** of one joined text. -/
theorem sep_cases (h : a ++ sep :: x = b ++ sep :: y) :
    a = b ∧ x = y ∨ (∃ z, b = a ++ sep :: z ∧ x = z ++ sep :: y) ∨
      ∃ z, a = b ++ sep :: z ∧ y = z ++ sep :: x := by
  induction a generalizing b with
  | nil =>
    cases b with
    | nil => exact .inl ⟨rfl, (List.cons_eq_cons.mp h).2⟩
    | cons c b =>
      obtain ⟨rfl, hrest⟩ := List.cons_eq_cons.mp h
      exact .inr (.inl ⟨b, rfl, hrest⟩)
  | cons c a ih =>
    cases b with
    | nil =>
      obtain ⟨rfl, hrest⟩ := List.cons_eq_cons.mp h
      exact .inr (.inr ⟨a, rfl, hrest.symm⟩)
    | cons d b =>
      obtain ⟨rfl, hrest⟩ := List.cons_eq_cons.mp h
      rcases ih hrest with ⟨rfl, hxy⟩ | ⟨z, rfl, hx⟩ | ⟨z, rfl, hy⟩
      · exact .inl ⟨rfl, hxy⟩
      · exact .inr (.inl ⟨z, rfl, hx⟩)
      · exact .inr (.inr ⟨z, rfl, hy⟩)

/-- The first parts are the same if neither contains the separator. -/
theorem sep_inj_left (ha : sep ∉ a) (hb : sep ∉ b) (h : a ++ sep :: x = b ++ sep :: y) :
    a = b ∧ x = y := by
  rcases sep_cases h with heq | ⟨z, rfl, -⟩ | ⟨z, rfl, -⟩
  · exact heq
  · simp at hb
  · simp at ha

/-- The last parts are the same if neither contains the separator. -/
theorem sep_inj_right (hx : sep ∉ x) (hy : sep ∉ y) (h : a ++ sep :: x = b ++ sep :: y) :
    a = b ∧ x = y := by
  rcases sep_cases h with heq | ⟨z, -, rfl⟩ | ⟨z, -, rfl⟩
  · exact heq
  · simp at hx
  · simp at hy

/-- **A part between two separators** of a text joined from parts that do not contain the
separator is one of them. -/
theorem mem_of_part {head e : List α} {es : List (List α)} (hhead : sep ∉ head)
    (hes : ∀ e ∈ es, sep ∉ e) (he : sep ∉ e) (hb : b = [] ∨ ∃ b', b = sep :: b')
    (h : head ++ es.flatMap (sep :: ·) = a ++ sep :: (e ++ b)) : e ∈ es := by
  induction es generalizing head a with
  | nil =>
    exfalso
    rw [List.flatMap_nil, List.append_nil] at h
    simp [h] at hhead
  | cons e₁ es ih =>
    have he₁ : sep ∉ e₁ := hes e₁ List.mem_cons_self
    have hrest : ∀ e ∈ es, sep ∉ e := fun e he => hes e (List.mem_cons_of_mem e₁ he)
    rw [List.flatMap_cons, List.cons_append] at h
    rcases sep_cases h with ⟨-, heq⟩ | ⟨z, -, heq⟩ | ⟨z, rfl, -⟩
    · -- the part begins where `e₁` begins
      refine List.mem_cons.mpr (.inl ?_)
      cases es with
      | nil =>
        rw [List.flatMap_nil, List.append_nil] at heq
        rcases hb with rfl | ⟨b', rfl⟩
        · rw [heq, List.append_nil]
        · simp [heq] at he₁
      | cons e₂ es =>
        rw [List.flatMap_cons, List.cons_append] at heq
        rcases hb with rfl | ⟨b', rfl⟩
        · rw [List.append_nil] at heq
          simp [← heq] at he
        · exact (sep_inj_left he₁ he heq).1.symm
    · exact List.mem_cons_of_mem e₁ (ih he₁ hrest heq)
    · simp at hhead

end TboxSec
