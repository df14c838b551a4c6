import Mathlib

/-!
# Self-delimiting encodings

An encoder of values into lists of symbols is **self-delimiting** on a set of values when its
output can be told from whatever follows it: equal outputs with anything appended come from
equal values and leave equal rests. This is the unambiguous-parsing argument with the parser
left out.

* **Fixed width**: an injective encoder whose outputs have one length is self-delimiting.
* **Length prefix**: a content behind a self-delimiting encoding of its length.
* **Closure**: self-delimiting encoders follow one another, are taken along injections, and
  are repeated over the elements of a list.
-/

namespace TboxSec

variable {α β γ : Type*}

/-- On `s`, the output of `enc` ends where it ends whatever comes after it. -/
def SelfDelimiting (s : Set α) (enc : α → List β) : Prop :=
  ∀ ⦃a⦄, a ∈ s → ∀ ⦃b⦄, b ∈ s → ∀ ⦃x y : List β⦄, enc a ++ x = enc b ++ y → a = b ∧ x = y

namespace SelfDelimiting

variable {s : Set α} {t : Set γ} {enc : α → List β} {enc' : γ → List β}

/-- With nothing behind it, a self-delimiting encoder is injective. -/
theorem injOn (h : SelfDelimiting s enc) : Set.InjOn enc s := by
  intro a ha b hb heq
  have hnil : enc a ++ [] = enc b ++ [] := by rw [heq]
  exact (h ha hb hnil).1

/-- **Fixed width.** -/
theorem of_length {n : ℕ} (hlen : ∀ a ∈ s, (enc a).length = n) (hinj : Set.InjOn enc s) :
    SelfDelimiting s enc := by
  intro a ha b hb x y heq
  have hsame : (enc a).length = (enc b).length := by rw [hlen a ha, hlen b hb]
  obtain ⟨henc, hrest⟩ := List.append_inj heq hsame
  exact ⟨hinj ha hb henc, hrest⟩

/-- **One after the other.** -/
theorem append (h : SelfDelimiting s enc) (h' : SelfDelimiting t enc') :
    SelfDelimiting (s ×ˢ t) fun p => enc p.1 ++ enc' p.2 := by
  rintro ⟨a, c⟩ ⟨ha, hc⟩ ⟨b, d⟩ ⟨hb, hd⟩ x y heq
  simp only [List.append_assoc] at heq
  obtain ⟨rfl, htail⟩ := h ha hb heq
  obtain ⟨rfl, hrest⟩ := h' hc hd htail
  exact ⟨rfl, hrest⟩

/-- On fewer values. -/
theorem mono {s' : Set α} (h : SelfDelimiting s enc) (hsub : s' ⊆ s) :
    SelfDelimiting s' enc :=
  fun _ ha _ hb _ _ heq => h (hsub ha) (hsub hb) heq

/-- **Length prefix.** A content of any length the prefix can tell. -/
theorem prefixed {lenEnc : ℕ → List β} {lens : Set ℕ} (h : SelfDelimiting lens lenEnc) :
    SelfDelimiting {c : List β | c.length ∈ lens} fun c => lenEnc c.length ++ c := by
  intro c hc d hd x y heq
  simp only [List.append_assoc] at heq
  obtain ⟨hlen, hrest⟩ := h hc hd heq
  exact List.append_inj hrest hlen

/-- **Repetition**, for lists of one length. -/
theorem flatMap (h : SelfDelimiting s enc) :
    ∀ {l m : List α}, (∀ a ∈ l, a ∈ s) → (∀ b ∈ m, b ∈ s) → l.length = m.length →
      ∀ {x y : List β}, l.flatMap enc ++ x = m.flatMap enc ++ y → l = m ∧ x = y := by
  intro l
  induction l with
  | nil =>
    intro m _ _ hlen x y heq
    obtain rfl : m = [] := List.length_eq_zero_iff.mp hlen.symm
    exact ⟨rfl, heq⟩
  | cons a l ih =>
    intro m hl hm hlen x y heq
    obtain ⟨b, m, rfl⟩ : ∃ b m', m = b :: m' :=
      List.exists_cons_of_length_pos (hlen ▸ Nat.succ_pos _)
    simp only [List.flatMap_cons, List.append_assoc] at heq
    obtain ⟨rfl, htail⟩ := h (hl a (by simp)) (hm b (by simp)) heq
    obtain ⟨rfl, hrest⟩ := ih (fun c hc => hl c (by simp [hc])) (fun c hc => hm c (by simp [hc]))
      (by simpa using hlen) htail
    exact ⟨rfl, hrest⟩

/-- **Repetition**, for lists of any lengths: when no element is encoded by nothing, the number
of elements is told by the encoding as well. -/
theorem flatMap_injOn (h : SelfDelimiting s enc) (hne : ∀ a ∈ s, enc a ≠ []) :
    Set.InjOn (List.flatMap enc) {l : List α | ∀ a ∈ l, a ∈ s} := by
  intro l
  induction l with
  | nil =>
    intro _ m hm heq
    rcases m with - | ⟨b, m⟩
    · rfl
    · have hb : enc b = [] := by
        have : enc b ++ m.flatMap enc = [] := heq.symm
        exact (List.append_eq_nil_iff.mp this).1
      exact absurd hb (hne b (hm b (by simp)))
  | cons a l ih =>
    intro hl m hm heq
    rcases m with - | ⟨b, m⟩
    · have ha : enc a = [] := by
        have : enc a ++ l.flatMap enc = [] := heq
        exact (List.append_eq_nil_iff.mp this).1
      exact absurd ha (hne a (hl a (by simp)))
    · simp only [List.flatMap_cons] at heq
      obtain ⟨rfl, htail⟩ := h (hl a (by simp)) (hm b (by simp)) heq
      have hrest : l = m :=
        ih (fun c hc => hl c (by simp [hc])) (fun c hc => hm c (by simp [hc])) htail
      rw [hrest]

end SelfDelimiting

/-! ### Numbers told by their digits -/

/-- Below `b ^ k` a number is told by its last `k` digits to the base `b`. -/
theorem eq_of_digits {b : ℕ} : ∀ {k v w : ℕ}, v < b ^ k → w < b ^ k →
    (∀ i < k, v / b ^ i % b = w / b ^ i % b) → v = w := by
  intro k
  induction k with
  | zero =>
    intro v w hv hw _
    simp only [Nat.pow_zero, Nat.lt_one_iff] at hv hw
    rw [hv, hw]
  | succ k ih =>
    intro v w hv hw hdigits
    have hlow : v % b = w % b := by simpa using hdigits 0 (by omega)
    have hhigh : v / b = w / b := by
      refine ih (Nat.div_lt_of_lt_mul (by rwa [Nat.pow_succ'] at hv))
        (Nat.div_lt_of_lt_mul (by rwa [Nat.pow_succ'] at hw)) fun i hi => ?_
      have hdigit := hdigits (i + 1) (by omega)
      simpa only [Nat.pow_succ', Nat.div_div_eq_div_mul] using hdigit
    rw [← Nat.div_add_mod v b, ← Nat.div_add_mod w b, hlow, hhigh]

end TboxSec
