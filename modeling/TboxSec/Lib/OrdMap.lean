import Mathlib.Data.List.Sort
import Mathlib.Data.String.Basic

/-!
# Ordered finite maps

`OrdMap κ α` is a finite map kept as an association list in strictly increasing key order,
the way a balanced-tree map presents itself to a loop: iteration runs over the keys in
order, an insertion replaces the value of an existing key and never duplicates it. The
order of the keys is a field, so every value of the type is a well-formed map.

* `OrdMap.find?_insert` is the only law the callers need: an insertion changes the value
  of its own key and nothing else.
* `OrdMap.mem_toList_iff` reads a loop over the map back as lookups.
-/

namespace TboxSec

universe u v

/-- A finite map as an association list in strictly increasing key order. -/
structure OrdMap (κ : Type u) (α : Type v) [LinearOrder κ] where
  /-- The bindings, in key order. -/
  toList : List (κ × α)
  /-- The keys increase strictly, so no key is bound twice. -/
  sorted : (toList.map Prod.fst).Pairwise (· < ·)

namespace OrdMap

variable {κ : Type u} {α : Type v} [LinearOrder κ]

@[ext]
theorem ext {m n : OrdMap κ α} (h : m.toList = n.toList) : m = n := by
  cases m; cases n; cases h; rfl

instance [DecidableEq α] : DecidableEq (OrdMap κ α) := fun m n =>
  decidable_of_iff (m.toList = n.toList) ⟨ext, fun h => h ▸ rfl⟩

/-! ### The list operations -/

/-- Lookup in an association list. -/
def findList (k : κ) : List (κ × α) → Option α
  | [] => none
  | (k', v) :: t => if k' = k then some v else findList k t

/-- Ordered insertion, replacing the value of a key that is already bound. -/
def insertList (k : κ) (v : α) : List (κ × α) → List (κ × α)
  | [] => [(k, v)]
  | (k', v') :: t =>
    if k < k' then (k, v) :: (k', v') :: t
    else if k' = k then (k, v) :: t
    else (k', v') :: insertList k v t

private theorem mem_insertList_fst {k x : κ} {v : α} {l : List (κ × α)} :
    x ∈ (insertList k v l).map Prod.fst → x = k ∨ x ∈ l.map Prod.fst := by
  induction l with
  | nil => simp [insertList]
  | cons b t ih =>
    obtain ⟨k', v'⟩ := b
    rw [insertList]
    split_ifs with h₁ h₂
    · simp
    · simp only [List.map_cons, List.mem_cons]
      rintro (h | h)
      · exact .inl h
      · exact .inr (.inr h)
    · simp only [List.map_cons, List.mem_cons]
      rintro (h | h)
      · exact .inr (.inl h)
      · exact (ih h).imp_right .inr

private theorem sorted_insertList {k : κ} {v : α} {l : List (κ × α)}
    (h : (l.map Prod.fst).Pairwise (· < ·)) :
    ((insertList k v l).map Prod.fst).Pairwise (· < ·) := by
  induction l with
  | nil => simp [insertList]
  | cons b t ih =>
    obtain ⟨k', v'⟩ := b
    simp only [List.map_cons, List.pairwise_cons] at h
    rw [insertList]
    split_ifs with h₁ h₂
    · simp only [List.map_cons, List.pairwise_cons, List.mem_cons]
      refine ⟨?_, h⟩
      rintro x (rfl | hx)
      · exact h₁
      · exact h₁.trans (h.1 x hx)
    · subst h₂
      simpa using h
    · simp only [List.map_cons, List.pairwise_cons]
      refine ⟨fun x hx => ?_, ih h.2⟩
      rcases mem_insertList_fst hx with rfl | hx
      · exact lt_of_le_of_ne (not_lt.mp h₁) h₂
      · exact h.1 x hx

private theorem findList_insertList {k x : κ} {v : α} {l : List (κ × α)} :
    findList x (insertList k v l) = if x = k then some v else findList x l := by
  induction l with
  | nil =>
    simp only [insertList, findList, eq_comm]
  | cons b t ih =>
    obtain ⟨k', v'⟩ := b
    rw [insertList]
    split_ifs with h₁ h₂ h₃
    · simp [findList, h₂]
    · simp [findList, Ne.symm h₂]
    · simp [findList, ‹x = k›]
    · grind [findList]
    · grind [findList]
    · grind [findList]

/-- On a sorted list, a lookup finds exactly the bindings. -/
private theorem findList_eq_some_iff {k : κ} {v : α} {l : List (κ × α)}
    (h : (l.map Prod.fst).Pairwise (· < ·)) : findList k l = some v ↔ (k, v) ∈ l := by
  induction l with
  | nil => simp [findList]
  | cons b t ih =>
    obtain ⟨k', v'⟩ := b
    simp only [List.map_cons, List.pairwise_cons] at h
    rw [findList]
    split_ifs with hk
    · subst hk
      have hnot : (k', v) ∉ t := fun hm =>
        lt_irrefl k' (h.1 k' (List.mem_map.mpr ⟨(k', v), hm, rfl⟩))
      simp [hnot, eq_comm]
    · rw [ih h.2]
      simp [Ne.symm hk]

/-- Inserting a binding that is already there changes nothing. -/
private theorem insertList_eq_self {k : κ} {v : α} {l : List (κ × α)}
    (hs : (l.map Prod.fst).Pairwise (· < ·)) (h : (k, v) ∈ l) : insertList k v l = l := by
  induction l with
  | nil => simp at h
  | cons b t ih =>
    obtain ⟨k', v'⟩ := b
    simp only [List.map_cons, List.pairwise_cons] at hs
    rw [insertList]
    rcases List.mem_cons.mp h with heq | hmem
    · obtain ⟨rfl, rfl⟩ := Prod.mk.inj heq
      simp
    · -- the binding lies behind the head, so its key is the larger one
      have hlt : k' < k := hs.1 k (List.mem_map.mpr ⟨(k, v), hmem, rfl⟩)
      rw [if_neg hlt.not_gt, if_neg hlt.ne, ih hs.2 hmem]

/-! ### The map operations -/

/-- The empty map. -/
def empty : OrdMap κ α := ⟨[], by simp⟩

instance : Inhabited (OrdMap κ α) := ⟨empty⟩

/-- Lookup. -/
def find? (m : OrdMap κ α) (k : κ) : Option α := findList k m.toList

/-- Insertion, replacing the value of a key that is already bound. -/
def insert (m : OrdMap κ α) (k : κ) (v : α) : OrdMap κ α :=
  ⟨insertList k v m.toList, sorted_insertList m.sorted⟩

/-- Whether the map has no binding. -/
def isEmpty (m : OrdMap κ α) : Bool := m.toList.isEmpty

@[simp]
theorem find?_empty (k : κ) : (empty : OrdMap κ α).find? k = none := rfl

/-- **An insertion changes its own key only.** -/
theorem find?_insert (m : OrdMap κ α) (k x : κ) (v : α) :
    (m.insert k v).find? x = if x = k then some v else m.find? x :=
  findList_insertList

@[simp]
theorem find?_insert_self (m : OrdMap κ α) (k : κ) (v : α) :
    (m.insert k v).find? k = some v := by
  simp [find?_insert]

theorem find?_insert_of_ne {m : OrdMap κ α} {k x : κ} {v : α} (h : x ≠ k) :
    (m.insert k v).find? x = m.find? x := by
  simp [find?_insert, h]

/-- A loop over the map visits exactly the bindings that lookups see. -/
theorem mem_toList_iff {m : OrdMap κ α} {k : κ} {v : α} :
    (k, v) ∈ m.toList ↔ m.find? k = some v :=
  (findList_eq_some_iff m.sorted).symm

/-- **An insertion that changes nothing** is one of a binding that is already there. -/
theorem insert_eq_self_iff {m : OrdMap κ α} {k : κ} {v : α} :
    m.insert k v = m ↔ m.find? k = some v := by
  constructor
  · intro h
    rw [← h, find?_insert_self]
  · intro h
    exact ext (insertList_eq_self m.sorted (mem_toList_iff.mpr h))

/-- Maps with the same lookups are equal. -/
private theorem ext_find? {m n : OrdMap κ α} (h : ∀ k, m.find? k = n.find? k) : m = n := by
  have hnodup : ∀ m : OrdMap κ α, m.toList.Nodup := fun m =>
    (List.pairwise_map.mp m.sorted).imp fun hlt heq => hlt.ne (congrArg Prod.fst heq)
  have hmem : ∀ b, b ∈ m.toList ↔ b ∈ n.toList := by
    rintro ⟨k, v⟩
    rw [mem_toList_iff, mem_toList_iff, h]
  have hperm : m.toList.Perm n.toList := (List.perm_ext_iff_of_nodup (hnodup m) (hnodup n)).mpr hmem
  exact ext (hperm.eq_of_pairwise
    (fun a b _ _ hab hba => absurd (hab.trans hba) (lt_irrefl _))
    (List.pairwise_map.mp m.sorted) (List.pairwise_map.mp n.sorted))

/-- **A map is rebuilt from its bindings** in any order, repeated or not: every binding that is
read is one of the map, and the keys that are not read were right before. -/
theorem foldlM_insert {β : Type*} {decode : β → Option α} {fields : List (κ × β)}
    {m₀ m : OrdMap κ α}
    (hdecode : ∀ b ∈ fields, ∃ a, decode b.2 = some a ∧ m.find? b.1 = some a)
    (hrest : ∀ k, k ∉ fields.map Prod.fst → m₀.find? k = m.find? k) :
    fields.foldlM (fun m b => (decode b.2).map (m.insert b.1)) m₀ = some m := by
  induction fields generalizing m₀ with
  | nil =>
    have heq : m₀ = m := ext_find? fun k => hrest k (by simp)
    rw [heq]
    rfl
  | cons b fields ih =>
    obtain ⟨a, ha, hfind⟩ := hdecode b List.mem_cons_self
    rw [List.foldlM_cons, ha]
    refine ih (fun b' hb' => hdecode b' (List.mem_cons_of_mem b hb')) fun k hk => ?_
    rw [find?_insert]
    split_ifs with hkb
    · rw [hkb, hfind]
    · exact hrest k (by simp [hkb, hk])

/-- The keys of a map are distinct. -/
theorem nodup_keys (m : OrdMap κ α) : (m.toList.map Prod.fst).Nodup :=
  m.sorted.imp fun hlt => hlt.ne

theorem find?_of_not_mem_keys {m : OrdMap κ α} {k : κ} (h : k ∉ m.toList.map Prod.fst) :
    m.find? k = none := by
  by_contra hne
  obtain ⟨v, hv⟩ := Option.ne_none_iff_exists'.mp hne
  exact h (List.mem_map.mpr ⟨(k, v), mem_toList_iff.mpr hv, rfl⟩)

theorem isEmpty_iff_find? {m : OrdMap κ α} : m.isEmpty = true ↔ ∀ k, m.find? k = none := by
  constructor
  · intro h k
    rw [isEmpty, List.isEmpty_iff] at h
    simp [find?, h, findList]
  · intro h
    rw [isEmpty, List.isEmpty_iff, List.eq_nil_iff_forall_not_mem]
    rintro ⟨k, v⟩ hm
    rw [mem_toList_iff, h k] at hm
    cases hm

@[simp]
theorem isEmpty_empty : (empty : OrdMap κ α).isEmpty = true := rfl

end OrdMap

end TboxSec
