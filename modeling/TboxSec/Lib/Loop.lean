import Mathlib.Data.PFun
import Mathlib.Data.Finset.Card
import Mathlib.Order.Interval.Set.Defs
import Mathlib.Order.SuccPred.Relation
import Mathlib.Data.Nat.SuccPred

/-!
# Loops that follow links

The body of a loop either stops with a result or says where to go on. `loop body` is the partial
function that the loop computes, with no bound on the number of rounds; `follow body n` goes on
at most `n` times, and can be evaluated.

Where a loop goes on is often read from a store: it depends on the place only through a key, and
there are finitely many keys.

* `exists_cycle`: a loop that has gone on more often than there are keys comes back to where it
  has been.
* `follow_eq_some_iff`, `follow_eq_none_iff`: so as many rounds as there are keys are enough to
  know what the loop computes, and whether it ends.
* `loop_congr`: a loop depends on its body only at the places that it reaches.
-/

namespace TboxSec

variable {α ρ κ : Type*} {body : α → ρ ⊕ α} {a b : α} {r : ρ}

/-- The partial function that a loop computes. -/
def loop (body : α → ρ ⊕ α) : α →. ρ := PFun.fix (body : α →. ρ ⊕ α)

/-- From `a` the loop goes on to `b`. -/
def Goes (body : α → ρ ⊕ α) (a b : α) : Prop := body a = .inr b

/-- The loop, going on at most `n` times. -/
def follow (body : α → ρ ⊕ α) : ℕ → α → Option ρ
  | 0, a => (body a).getLeft?
  | n + 1, a => (body a).elim some (follow body n)

/-! ### One round -/

theorem follow_of_stop (h : body a = .inl r) (n : ℕ) : follow body n a = some r := by
  cases n <;> simp [follow, h]

theorem follow_succ_of_goes (h : Goes body a b) (n : ℕ) :
    follow body (n + 1) a = follow body n b := by
  rw [follow, h, Sum.elim_inr]

theorem mem_loop_of_stop (h : body a = .inl r) : r ∈ loop body a :=
  PFun.fix_stop (by rw [PFun.coe_val, h]; exact Part.mem_some _)

theorem loop_eq_of_goes (h : Goes body a b) : loop body a = loop body b :=
  PFun.fix_fwd_eq (by rw [PFun.coe_val, h]; exact Part.mem_some _)

theorem loop_eq_of_reaches (h : Relation.ReflTransGen (Goes body) a b) :
    loop body a = loop body b := by
  induction h with
  | refl => rfl
  | tail _ hgoes ih => exact ih.trans (loop_eq_of_goes hgoes)

/-- A property that the loop's last place has, and that a round carries back, the first one
has. -/
@[elab_as_elim]
theorem loop_induction {p : α → Prop} (h : r ∈ loop body a)
    (hstop : ∀ a, body a = .inl r → p a)
    (hgoes : ∀ a b, Goes body a b → r ∈ loop body b → p b → p a) : p a := by
  refine PFun.fixInduction' h (fun a ha => hstop a ?_) fun a b hb hab => hgoes a b ?_ hb
  · exact (Part.mem_some_iff.mp ha).symm
  · exact (Part.mem_some_iff.mp hab).symm

theorem mem_loop_of_follow {n : ℕ} (h : follow body n a = some r) : r ∈ loop body a := by
  induction n generalizing a with
  | zero => exact mem_loop_of_stop (Sum.getLeft?_eq_some_iff.mp h)
  | succ n ih =>
    rw [follow] at h
    cases hbody : body a with
    | inl r' =>
      rw [hbody, Sum.elim_inl] at h
      rw [← Option.some.inj h]
      exact mem_loop_of_stop hbody
    | inr b =>
      rw [hbody, Sum.elim_inr] at h
      rw [loop_eq_of_goes hbody]
      exact ih h

/-- The loop stops at a place that it reaches. -/
theorem exists_stop (h : r ∈ loop body a) :
    ∃ b, Relation.ReflTransGen (Goes body) a b ∧ body b = .inl r := by
  refine loop_induction h (fun a ha => ⟨a, .refl, ha⟩) fun a b hab _ hb => ?_
  obtain ⟨c, hbc, hc⟩ := hb
  exact ⟨c, .head hab hbc, hc⟩

/-- The loop depends on its body only where it comes. -/
theorem loop_congr {body' : α → ρ ⊕ α}
    (h : ∀ b, Relation.ReflTransGen (Goes body) a b → body' b = body b) :
    loop body' a = loop body a := by
  refine Part.ext fun r => ⟨fun hr => ?_, fun hr => ?_⟩
  · revert h
    refine loop_induction hr (fun a ha h => ?_) fun a b hab _ ih h => ?_
    · exact mem_loop_of_stop ((h a .refl).symm.trans ha)
    · have hgoes : Goes body a b := (h a .refl).symm.trans hab
      rw [loop_eq_of_goes hgoes]
      exact ih fun c hc => h c (.head hgoes hc)
  · revert h
    refine loop_induction hr (fun a ha h => ?_) fun a b hab _ ih h => ?_
    · exact mem_loop_of_stop ((h a .refl).trans ha)
    · have hgoes : Goes body' a b := (h a .refl).trans hab
      rw [loop_eq_of_goes hgoes]
      exact ih fun c hc => h c (.head hab hc)

/-! ### Coming back -/

/-- A loop that comes back to where it has been does not end. -/
theorem not_dom_of_cycle (h : Relation.TransGen (Goes body) a a) : ¬ (loop body a).Dom := by
  intro hdom
  obtain ⟨r, hr⟩ := Part.dom_iff_mem.mp hdom
  revert h
  refine loop_induction hr (fun a ha hcycle => ?_) fun a b hab _ ih hcycle => ?_
  · obtain ⟨b, hab, -⟩ := Relation.TransGen.head'_iff.mp hcycle
    rw [Goes, ha] at hab
    cases hab
  · obtain ⟨c, hac, hca⟩ := Relation.TransGen.head'_iff.mp hcycle
    rw [Goes, hab] at hac
    cases hac
    exact ih (Relation.TransGen.tail' hca hab)

/-- The places of a loop that has not ended after `n` more rounds. -/
private theorem exists_places {n : ℕ} (h : follow body n a = none) :
    ∃ place : ℕ → α, place 0 = a ∧ ∀ i ≤ n, Goes body (place i) (place (i + 1)) := by
  induction n generalizing a with
  | zero =>
    obtain ⟨b, hb⟩ := Sum.isRight_iff.mp (Sum.getLeft?_eq_none_iff.mp h)
    refine ⟨fun i => i.casesOn a fun _ => b, rfl, fun i hi => ?_⟩
    obtain rfl := Nat.le_zero.mp hi
    exact hb
  | succ n ih =>
    cases hbody : body a with
    | inl r =>
      rw [follow_of_stop hbody] at h
      cases h
    | inr b =>
      rw [follow_succ_of_goes hbody] at h
      obtain ⟨place, hfirst, hplace⟩ := ih h
      refine ⟨fun i => i.casesOn a place, rfl, fun i hi => ?_⟩
      cases i with
      | zero =>
        change Goes body a (place 0)
        rw [hfirst]
        exact hbody
      | succ i => exact hplace i (by omega)

section Keys

variable [DecidableEq κ] {key : α → κ} {keys : List κ}

/-- **Coming back.** Where the loop goes on depends on a key only. If it goes on more often than
there are keys, it comes back to where it has been. -/
theorem exists_cycle (hmem : ∀ a b, Goes body a b → key a ∈ keys)
    (hkey : ∀ a b c d, Goes body a c → Goes body b d → key a = key b → c = d)
    (h : follow body keys.length a = none) :
    ∃ b, Relation.ReflTransGen (Goes body) a b ∧ Relation.TransGen (Goes body) b b := by
  obtain ⟨place, rfl, hplace⟩ := exists_places h
  have hreach : ∀ {i j}, i ≤ j → j ≤ keys.length + 1 →
      Relation.ReflTransGen (Goes body) (place i) (place j) := by
    intro i j hij hj
    have hrange : Relation.ReflTransGen (fun m n => Goes body (place m) (place n)) i j := by
      refine reflTransGen_of_succ_of_le _ (fun k hk => hplace k ?_) hij
      have hlt := hk.2
      omega
    exact Relation.ReflTransGen.lift place (fun _ _ => id) _ _ hrange
  -- two of the first places have one key, and so the same successor
  obtain ⟨i, hi, j, hj, hne, heq⟩ : ∃ i ∈ Finset.range (keys.length + 1),
      ∃ j ∈ Finset.range (keys.length + 1), i ≠ j ∧ key (place i) = key (place j) := by
    refine Finset.exists_ne_map_eq_of_card_lt_of_maps_to (t := keys.toFinset) ?_ fun i hi => ?_
    · rw [Finset.card_range]
      exact Nat.lt_succ_of_le (List.toFinset_card_le keys)
    · have hle := Finset.mem_range_succ_iff.mp (Finset.mem_coe.mp hi)
      exact Finset.mem_coe.mpr (List.mem_toFinset.mpr (hmem _ _ (hplace i hle)))
  wlog hlt : i < j generalizing i j with hwlog
  · exact hwlog j hj i hi hne.symm heq.symm (by omega)
  rw [Finset.mem_range_succ_iff] at hi hj
  have hsame : place (i + 1) = place (j + 1) :=
    hkey _ _ _ _ (hplace i hi) (hplace j hj) heq
  refine ⟨place (i + 1), hreach (by omega) (by omega), ?_⟩
  have hround := Relation.TransGen.tail' (hreach (i := i + 1) (j := j) hlt (by omega))
    (hplace j hj)
  rwa [← hsame] at hround

/-- As many rounds as there are keys decide whether the loop ends. -/
theorem follow_eq_none_iff (hmem : ∀ a b, Goes body a b → key a ∈ keys)
    (hkey : ∀ a b c d, Goes body a c → Goes body b d → key a = key b → c = d) :
    follow body keys.length a = none ↔
      ∃ b, Relation.ReflTransGen (Goes body) a b ∧ Relation.TransGen (Goes body) b b := by
  refine ⟨exists_cycle hmem hkey, fun ⟨b, hreach, hcycle⟩ => ?_⟩
  by_contra hsome
  obtain ⟨r, hr⟩ := Option.ne_none_iff_exists'.mp hsome
  have hdom := Part.dom_iff_mem.mpr ⟨r, mem_loop_of_follow hr⟩
  rw [loop_eq_of_reaches hreach] at hdom
  exact not_dom_of_cycle hcycle hdom

/-- As many rounds as there are keys find what the loop computes. -/
theorem follow_eq_some_iff (hmem : ∀ a b, Goes body a b → key a ∈ keys)
    (hkey : ∀ a b c d, Goes body a c → Goes body b d → key a = key b → c = d) :
    follow body keys.length a = some r ↔ r ∈ loop body a := by
  refine ⟨mem_loop_of_follow, fun hr => ?_⟩
  cases hfollow : follow body keys.length a with
  | none =>
    obtain ⟨b, hreach, hcycle⟩ := exists_cycle hmem hkey hfollow
    have hdom := Part.dom_iff_mem.mpr ⟨r, hr⟩
    rw [loop_eq_of_reaches hreach] at hdom
    exact absurd hdom (not_dom_of_cycle hcycle)
  | some r' => rw [Part.mem_unique hr (mem_loop_of_follow hfollow)]

end Keys

end TboxSec
