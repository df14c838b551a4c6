import Mathlib.Data.Fintype.EquivFin
import TboxSec.Lib.Json

/-!
# JSON documents as texts

A library that keeps its objects in an order of its own prints a document and parses the text
into the same document up to the order of the fields (`JsonText.Lawful`). Two things make a
protocol over such texts as good as one over documents:

* **Printable documents.** `Printable` is what such a library can print without loss: whole
  numbers of 64 bits, no fractions, no key twice. It is closed under the assignments that build a
  document.
* **Blind readers.** `OrderBlind` readers do not see the order of the fields. A reader that looks
  at known fields (`Reads`) takes the same from documents that are `SameBut` another one, so a
  protocol that adds a field of its own to every message does not disturb it.

`JsonText.Lawful.parse_assign` puts them together: behind the text of a printable document with a
field added there is a document that is the same but for that field.
-/

namespace TboxSec

namespace Json

universe u v

variable {S : Type}

/-! ### Printable documents -/

/-- The documents that a library prints without loss. -/
inductive Printable : Json S → Prop
  | null : Printable .null
  | bool (b : Bool) : Printable (.bool b)
  | int {n : ℤ} (hlow : -2 ^ 63 ≤ n) (hhigh : n < 2 ^ 64) : Printable (.int n)
  | str (s : S) : Printable (.str s)
  | arr {l : List (Json S)} (elements : ∀ j ∈ l, Printable j) : Printable (.arr l)
  | obj {fields : List (S × Json S)} (nodup : (fields.map Prod.fst).Nodup)
      (values : ∀ kv ∈ fields, Printable kv.2) : Printable (.obj fields)

namespace Printable

variable {j v : Json S} {k : S}

/-- The empty document is printable. -/
@[simp]
theorem null' : Printable (.null : Json S) := .null

/-- So are the truth values. -/
@[simp]
theorem bool' (b : Bool) : Printable (.bool b : Json S) := .bool b

/-- So is every text. -/
@[simp]
theorem str' (s : S) : Printable (.str s) := .str s

/-- So is every natural number of 64 bits. -/
theorem int_of_nat {n : ℕ} (h : n < 2 ^ 64) : Printable (.int n : Json S) :=
  .int (by omega) (by omega)

/-- So is every signed number of 64 bits. -/
theorem int_of_isInt64 {n : ℤ} (h : IsInt64 n) : Printable (.int n : Json S) := by
  obtain ⟨hlow, hhigh⟩ := h
  exact .int hlow (by omega)

/-- An array of printable documents, written by one function. -/
theorem arr_map {α : Type u} {l : List α} {f : α → Json S} (h : ∀ a ∈ l, Printable (f a)) :
    Printable (.arr (l.map f)) := by
  refine .arr fun j hj => ?_
  obtain ⟨a, ha, rfl⟩ := List.mem_map.mp hj
  exact h a ha

variable [DecidableEq S]

/-- The keys after an assignment to a field. -/
private theorem keys_setField (fields : List (S × Json S)) :
    (setField k v fields).map Prod.fst =
      if k ∈ fields.map Prod.fst then fields.map Prod.fst else fields.map Prod.fst ++ [k] := by
  induction fields with
  | nil => rfl
  | cons p fields ih =>
    rw [setField]
    by_cases hp : p.1 = k
    · rw [if_pos hp, if_pos (by simp [hp])]
      simp [hp]
    · have hmem : k ∈ (p :: fields).map Prod.fst ↔ k ∈ fields.map Prod.fst := by
        simp [Ne.symm hp]
      rw [if_neg hp, List.map_cons, ih]
      by_cases hk : k ∈ fields.map Prod.fst
      · rw [if_pos hk, if_pos (hmem.mpr hk), List.map_cons]
      · rw [if_neg hk, if_neg (mt hmem.mp hk), List.map_cons, List.cons_append]

/-- The values after an assignment to a field. -/
private theorem mem_setField {fields : List (S × Json S)} {kv : S × Json S}
    (h : kv ∈ setField k v fields) : kv = (k, v) ∨ kv ∈ fields := by
  induction fields with
  | nil => exact .inl (List.mem_singleton.mp h)
  | cons p fields ih =>
    rw [setField] at h
    split_ifs at h with hp
    · rcases List.mem_cons.mp h with rfl | hmem
      · exact .inl rfl
      · exact .inr (List.mem_cons_of_mem p hmem)
    · rcases List.mem_cons.mp h with rfl | hmem
      · exact .inr List.mem_cons_self
      · exact (ih hmem).imp id (List.mem_cons_of_mem p)

/-- **An assignment keeps a document printable.** -/
theorem assign (hj : Printable j) (hv : Printable v) : Printable (j.assign k v) := by
  have hsingle : Printable (.obj [(k, v)]) :=
    .obj (List.nodup_singleton k) fun kv hkv => by rwa [List.mem_singleton.mp hkv]
  cases hj with
  | obj hnodup hvalues =>
    refine .obj ?_ fun kv hkv => ?_
    · rw [keys_setField]
      split_ifs with hk
      · exact hnodup
      · exact hnodup.append (List.nodup_singleton k) (List.disjoint_singleton.mpr hk)
    · rcases mem_setField hkv with rfl | hmem
      · exact hv
      · exact hvalues kv hmem
  | null | bool | int | str | arr => exact hsingle

theorem assignIf {c : Prop} [Decidable c] (hj : Printable j) (hv : c → Printable v) :
    Printable (j.assignIf c k v) := by
  rw [Json.assignIf]
  split_ifs with hc
  · exact hj.assign (hv hc)
  · exact hj

end Printable

/-! ### Blind readers -/

/-- The reader does not see the order of the fields. -/
def OrderBlind {α : Type u} (f : Json S → α) : Prop := ∀ ⦃j j'⦄, Same j j' → f j = f j'

/-- A document of one kind is the same as documents of that kind only. -/
private theorem Same.kind {j j' : Json S} (h : Same j j') :
    j' = j ∨ (∃ l l', j = .arr l ∧ j' = .arr l') ∨
      ∃ fields fields', j = .obj fields ∧ j' = .obj fields' := by
  cases h with
  | refl => exact .inl rfl
  | arr h => exact .inr (.inl ⟨_, _, rfl, rfl⟩)
  | obj keys values => exact .inr (.inr ⟨_, _, rfl, rfl⟩)

namespace OrderBlind

/-- A reader that treats all arrays alike, and all objects alike. -/
theorem of_kind {α : Type u} {f : Json S → α} (harr : ∀ l l', f (.arr l) = f (.arr l'))
    (hobj : ∀ fields fields', f (.obj fields) = f (.obj fields')) : OrderBlind f := by
  intro j j' h
  rcases h.kind with rfl | ⟨l, l', rfl, rfl⟩ | ⟨fields, fields', rfl, rfl⟩
  · rfl
  · exact harr l l'
  · exact hobj fields fields'

theorem text : OrderBlind (Json.text (S := S)) := of_kind (fun _ _ => rfl) fun _ _ => rfl

/-- A number is read without a look at the order of fields. -/
theorem arithmetic : OrderBlind (Json.arithmetic (S := S)) :=
  of_kind (fun _ _ => rfl) fun _ _ => rfl

/-- So is a truth value. -/
theorem truth : OrderBlind (Json.truth (S := S)) := of_kind (fun _ _ => rfl) fun _ _ => rfl

/-- So is an unsigned number. -/
theorem unsigned : OrderBlind (Json.unsigned (S := S)) :=
  of_kind (fun _ _ => rfl) fun _ _ => rfl

/-- Whether a document is an object does not depend on the order of its fields. -/
theorem isObject : OrderBlind (Json.isObject (S := S)) :=
  of_kind (fun _ _ => rfl) fun _ _ => rfl

/-- One blind reader for all the elements of an array. -/
theorem mapM_eq {β : Type} {f : Json S → Option β} (hf : OrderBlind f) {l l' : List (Json S)}
    (h : List.Forall₂ Same l l') : l.mapM f = l'.mapM f := by
  induction h with
  | nil => rfl
  | cons h _ ih => rw [List.mapM_cons, List.mapM_cons, hf h, ih]

end OrderBlind

/-! ### A field of the protocol's own -/

variable [DecidableEq S]

/-- The documents are the same up to the order of the fields and the field `k`. -/
structure SameBut (k : S) (j j' : Json S) : Prop where
  isObject : j.isObject = j'.isObject
  fields : ∀ l, l ≠ k → Option.Rel Same (j.field? l) (j'.field? l)

variable {j j' v : Json S} {k l : S}

/-- The same document has the same fields. -/
theorem Same.field?_rel (h : Same j j') (k : S) :
    Option.Rel Same (j.field? k) (j'.field? k) := by
  cases hfield : j.field? k with
  | some v =>
    obtain ⟨v', hv', hsame⟩ := h.field? hfield
    rw [hv']
    exact .some hsame
  | none =>
    suffices hnone : j'.field? k = none by
      rw [hnone]
      exact .none
    cases h with
    | refl => exact hfield
    | arr h => rfl
    | obj keys values =>
      by_contra hsome
      obtain ⟨v', hv'⟩ := Option.ne_none_iff_exists'.mp hsome
      obtain ⟨fields, heq, hmem⟩ := exists_mem_of_field? hv'
      cases heq
      obtain ⟨v, hv, -⟩ := field?_of_mem_keys ((keys k).mpr (List.mem_map.mpr ⟨_, hmem, rfl⟩))
      rw [hfield] at hv
      cases hv

/-- The same documents are the same but for any field. -/
private theorem Same.sameBut (h : Same j j') (k : S) : SameBut k j j' :=
  ⟨OrderBlind.isObject h, fun l _ => h.field?_rel l⟩

/-- **The field that is added** is the one that makes the difference. -/
theorem Same.sameBut_of_assign (hj : j.isObject = true) (h : Same (j.assign k v) j') :
    SameBut k j j' := by
  refine ⟨?_, fun l hl => ?_⟩
  · rw [hj, ← OrderBlind.isObject h, isObject_assign]
  · have hrel := h.field?_rel l
    rwa [field?_assign, if_neg hl] at hrel

namespace SameBut

/-- A field with a default. -/
theorem value {α : Type u} {get : Json S → Option α} (h : SameBut k j j') (hl : l ≠ k)
    (hget : OrderBlind get) (default : α) : j.value l get default = j'.value l get default := by
  rw [Json.value, Json.value, h.isObject]
  have hrel := h.fields l hl
  revert hrel
  cases j.field? l <;> cases j'.field? l <;> intro hrel
  · rfl
  · cases hrel
  · cases hrel
  · cases hrel with
    | some hsame => simp only [hget hsame]

/-- Documents that are the same but for one field have the same other fields. -/
theorem contains (h : SameBut k j j') (hl : l ≠ k) : j.contains l = j'.contains l := by
  rw [Json.contains, Json.contains]
  have hrel := h.fields l hl
  revert hrel
  cases j.field? l <;> cases j'.field? l <;> intro hrel <;> first | rfl | cases hrel

/-- A field that is taken for what it is. -/
theorem field?_bind {α : Type u} {get : Json S → Option α} (h : SameBut k j j') (hl : l ≠ k)
    (hget : OrderBlind get) : (j.field? l).bind get = (j'.field? l).bind get := by
  have hrel := h.fields l hl
  revert hrel
  cases j.field? l <;> cases j'.field? l <;> intro hrel
  · rfl
  · cases hrel
  · cases hrel
  · cases hrel with
    | some hsame => exact hget hsame

end SameBut

/-- The reader looks at the fields behind `keys` and no others, whatever their order. -/
def Reads {α : Type u} (keys : List S) (f : Json S → α) : Prop :=
  ∀ ⦃k j j'⦄, k ∉ keys → SameBut k j j' → f j = f j'

namespace Reads

variable {α : Type u} {keys : List S} {f : Json S → α}

/-- There is always a key that it does not look at. -/
theorem orderBlind [Infinite S] (hf : Reads keys f) : OrderBlind f := by
  intro j j' h
  obtain ⟨k, hk⟩ := Infinite.exists_notMem_finset keys.toFinset
  exact hf (by simpa using hk) (h.sameBut k)

/-- An assignment to another field is not seen. -/
theorem assign (hf : Reads keys f) (hj : j.isObject = true) (hk : k ∉ keys) :
    f (j.assign k v) = f j :=
  (hf hk ((Same.refl (j.assign k v)).sameBut_of_assign hj)).symm

theorem assignIf {c : Prop} [Decidable c] (hf : Reads keys f) (hj : j.isObject = true)
    (hk : k ∉ keys) : f (j.assignIf c k v) = f j := by
  rw [Json.assignIf]
  split_ifs
  · exact hf.assign hj hk
  · rfl

end Reads

end Json

/-! ### The library -/

/-- The functions of a JSON library over texts `T`. -/
structure JsonText (T : Type) where
  dump : Json String → T
  /-- `none` when it throws. -/
  parse : T → Option (Json String)

/-- What is printed is parsed into the same document. -/
def JsonText.Lawful {T : Type} (J : JsonText T) : Prop :=
  ∀ j : Json String, j.Printable → ∃ j', J.parse (J.dump j) = some j' ∧ j.Same j'

/-- **Behind the text of a document with a field added** there is the same document but for that
field, and the field. -/
theorem JsonText.Lawful.parse_assign {T : Type} {J : JsonText T} (hJ : J.Lawful)
    {j v : Json String} {k : String} (hj : j.Printable) (hobj : j.isObject = true)
    (hv : v.Printable) :
    ∃ j', J.parse (J.dump (j.assign k v)) = some j' ∧ (j.assign k v).Same j' ∧
      j.SameBut k j' := by
  obtain ⟨j', hparse, hsame⟩ := hJ (j.assign k v) (hj.assign hv)
  exact ⟨j', hparse, hsame, hsame.sameBut_of_assign hobj⟩

end TboxSec
