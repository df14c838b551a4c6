import Mathlib.Data.List.Basic

/-!
# Documents

A document is a tree of empty nodes, scalars, sequences and maps. The keys of a map are nodes
too, and a key may stand in it more than once.

* `keys`: every key of every map of the tree.
* `pathKeys`: the keys that a walk through the values of maps comes by.
* `itemKeys`: the keys inside the sequences that such a walk comes by.
* `mem_keys_iff`: where the keys on the walk are plain, there are no others.
* `find`: the value of a key.

A library reads a key by comparing it with a text, and finds the first that matches: `find` does
the same, and `find_eq_none_iff` says when it finds nothing.
-/

namespace TboxSec

/-- A node of a document. -/
inductive Yaml where
  | null
  | scalar (text : List UInt8)
  | sequence (items : List Yaml)
  | map (entries : List (Yaml × Yaml))

namespace Yaml

/-- `IsMap`. -/
def isMap : Yaml → Bool
  | .map _ => true
  | _ => false

/-- `IsScalar`. -/
def isScalar : Yaml → Bool
  | .scalar _ => true
  | _ => false

/-- The text of a scalar. -/
def text? : Yaml → Option (List UInt8)
  | .scalar text => some text
  | _ => none

/-- The entries of a map. -/
def entries : Yaml → List (Yaml × Yaml)
  | .map entries => entries
  | _ => []

/-- The value of the first entry with this key. -/
def find (name : List UInt8) (n : Yaml) : Option Yaml :=
  (n.entries.find? fun e => e.1.text? == some name).map Prod.snd

mutual

/-- The keys of all the maps in a tree. -/
def keys : Yaml → List Yaml
  | .null => []
  | .scalar _ => []
  | .sequence items => keysOfItems items
  | .map entries => keysOfEntries entries

/-- The keys of all the maps in the items of a sequence. -/
def keysOfItems : List Yaml → List Yaml
  | [] => []
  | n :: ns => keys n ++ keysOfItems ns

/-- The keys of entries and of all the maps in them. -/
def keysOfEntries : List (Yaml × Yaml) → List Yaml
  | [] => []
  | (k, v) :: es => k :: (keys k ++ keys v ++ keysOfEntries es)

end

mutual

/-- The keys of the maps that are reached through the values of maps. -/
def pathKeys : Yaml → List Yaml
  | .map entries => pathKeysOfEntries entries
  | _ => []

/-- The keys of entries, and of the maps reached from their values. -/
def pathKeysOfEntries : List (Yaml × Yaml) → List Yaml
  | [] => []
  | (k, v) :: es => k :: (pathKeys v ++ pathKeysOfEntries es)

end

mutual

/-- The keys inside the sequences that are reached through the values of maps. -/
def itemKeys : Yaml → List Yaml
  | .sequence items => keysOfItems items
  | .map entries => itemKeysOfEntries entries
  | _ => []

/-- The keys inside the sequences reached from the values of entries. -/
def itemKeysOfEntries : List (Yaml × Yaml) → List Yaml
  | [] => []
  | (_, v) :: es => itemKeys v ++ itemKeysOfEntries es

end

/-! ### Membership -/

variable {n k v : Yaml}

private theorem mem_pathKeysOfEntries {es : List (Yaml × Yaml)} :
    k ∈ pathKeysOfEntries es ↔ ∃ e ∈ es, k = e.1 ∨ k ∈ pathKeys e.2 := by
  induction es with
  | nil => simp [pathKeysOfEntries]
  | cons e es ih =>
    rw [pathKeysOfEntries, List.mem_cons, List.mem_append, ih, List.exists_mem_cons_iff, or_assoc]

private theorem pathKeys_eq (n : Yaml) : n.pathKeys = pathKeysOfEntries n.entries := by
  cases n with
  | map es => rfl
  | null | scalar | sequence => rfl

theorem mem_pathKeys : k ∈ n.pathKeys ↔ ∃ e ∈ n.entries, k = e.1 ∨ k ∈ e.2.pathKeys := by
  rw [pathKeys_eq, mem_pathKeysOfEntries]

mutual

/-- **Every key is on the walk or inside a sequence**, if no key on the walk has keys itself. -/
theorem mem_keys_iff (n : Yaml) (h : ∀ k ∈ n.pathKeys, k.keys = []) :
    k ∈ n.keys ↔ k ∈ n.pathKeys ∨ k ∈ n.itemKeys :=
  match n with
  | .null | .scalar _ => ⟨nofun, fun hk => hk.elim id id⟩
  | .sequence items => ⟨.inr, fun hk => hk.elim nofun id⟩
  | .map es => mem_keysOfEntries_iff es h

private theorem mem_keysOfEntries_iff (es : List (Yaml × Yaml))
    (h : ∀ k ∈ pathKeysOfEntries es, k.keys = []) :
    k ∈ keysOfEntries es ↔ k ∈ pathKeysOfEntries es ∨ k ∈ itemKeysOfEntries es :=
  match es with
  | [] => ⟨nofun, fun hk => hk.elim id id⟩
  | (a, v) :: es => by
    rw [pathKeysOfEntries, List.forall_mem_cons, List.forall_mem_append] at h
    obtain ⟨ha, hv, hes⟩ := h
    simp only [keysOfEntries, pathKeysOfEntries, itemKeysOfEntries, ha, List.nil_append,
      List.mem_cons, List.mem_append, mem_keys_iff v hv, mem_keysOfEntries_iff es hes]
    tauto

end

/-! ### Lookups -/

private theorem text?_eq_some_iff {t : List UInt8} : n.text? = some t ↔ n = .scalar t := by
  cases n with
  | scalar s => exact ⟨fun h => congrArg _ (Option.some.inj h), fun h => by rw [h]; rfl⟩
  | null | sequence | map => exact ⟨nofun, nofun⟩

private theorem mem_entries_of_find {name : List UInt8} (h : n.find name = some v) :
    (.scalar name, v) ∈ n.entries := by
  obtain ⟨⟨k, w⟩, hfind, rfl⟩ := Option.map_eq_some_iff.mp h
  have hbeq : (k.text? == some name) = true :=
    List.find?_some (p := fun e : Yaml × Yaml => e.1.text? == some name) hfind
  obtain rfl := text?_eq_some_iff.mp (beq_iff_eq.mp hbeq)
  exact List.mem_of_find?_eq_some hfind

theorem isMap_of_find {name : List UInt8} (h : n.find name = some v) : n.isMap = true := by
  cases n with
  | map => rfl
  | null | scalar | sequence => exact nomatch h

theorem find_eq_none_iff {name : List UInt8} :
    n.find name = none ↔ ∀ e ∈ n.entries, e.1 ≠ .scalar name := by
  simp [find, text?_eq_some_iff]

theorem pathKeys_subset_of_find {name : List UInt8} (h : n.find name = some v) :
    v.pathKeys ⊆ n.pathKeys := fun _ hk =>
  mem_pathKeys.mpr ⟨_, mem_entries_of_find h, .inr hk⟩

end Yaml

end TboxSec
