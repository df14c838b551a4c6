import TboxSec.Lib.FixedWidth
import Mathlib.Data.List.Nodup
import Mathlib.Data.Rat.Floor

/-!
# JSON documents

`Json S` are the documents over strings `S`, in the shape a reader of a loosely typed document
sees them. The accessors are those of a library that throws: `none` is a thrown type error.

* `Json.value` looks a field up with a default. It throws on anything but an object and on a
  field of the wrong type, and only a field that is missing gives the default.
* `Json.contains` is false, not an error, on anything but an object.
* `Json.elements` is what a loop over a document runs through: a scalar counts as one element.

Documents are built by assignments to their fields (`Json.assign`, `Json.assignIf`), and what an
accessor sees of such a document is read off assignment by assignment. `Json.Same` is what a
writer and a reader of one library agree on: the document up to the order of its fields.
-/

namespace TboxSec

universe u

/-- JSON documents over strings `S`. An object lists its fields, each key once. -/
inductive Json (S : Type) where
  | null
  | bool (b : Bool)
  | int (n : ℤ)
  /-- A number with a fraction or an exponent. -/
  | real (q : ℚ)
  | str (s : S)
  | arr (l : List (Json S))
  | obj (fields : List (S × Json S))

namespace Json

variable {S : Type}

/-! ### Equality -/

section Equality

variable [DecidableEq S]

mutual

/-- Documents can be compared. -/
def decEq : (a b : Json S) → Decidable (a = b)
  | .null, b => match b with
    | .null => .isTrue rfl
    | .bool _ | .int _ | .real _ | .str _ | .arr _ | .obj _ => .isFalse nofun
  | .bool x, b => match b with
    | .bool y => decidable_of_iff (x = y) (by simp)
    | .null | .int _ | .real _ | .str _ | .arr _ | .obj _ => .isFalse nofun
  | .int x, b => match b with
    | .int y => decidable_of_iff (x = y) (by simp)
    | .null | .bool _ | .real _ | .str _ | .arr _ | .obj _ => .isFalse nofun
  | .real x, b => match b with
    | .real y => decidable_of_iff (x = y) (by simp)
    | .null | .bool _ | .int _ | .str _ | .arr _ | .obj _ => .isFalse nofun
  | .str x, b => match b with
    | .str y => decidable_of_iff (x = y) (by simp)
    | .null | .bool _ | .int _ | .real _ | .arr _ | .obj _ => .isFalse nofun
  | .arr x, b => match b with
    | .arr y => haveI := decEqList x y; decidable_of_iff (x = y) (by simp)
    | .null | .bool _ | .int _ | .real _ | .str _ | .obj _ => .isFalse nofun
  | .obj x, b => match b with
    | .obj y => haveI := decEqFields x y; decidable_of_iff (x = y) (by simp)
    | .null | .bool _ | .int _ | .real _ | .str _ | .arr _ => .isFalse nofun

/-- The elements of two arrays can be compared. -/
def decEqList : (x y : List (Json S)) → Decidable (x = y)
  | [], y => match y with
    | [] => .isTrue rfl
    | _ :: _ => .isFalse nofun
  | a :: x, y => match y with
    | [] => .isFalse nofun
    | b :: y =>
      haveI := decEq a b
      haveI := decEqList x y
      decidable_of_iff (a = b ∧ x = y) (by simp)

/-- The fields of two objects can be compared. -/
def decEqFields : (x y : List (S × Json S)) → Decidable (x = y)
  | [], y => match y with
    | [] => .isTrue rfl
    | _ :: _ => .isFalse nofun
  | (k, a) :: x, y => match y with
    | [] => .isFalse nofun
    | (l, b) :: y =>
      haveI := decEq a b
      haveI := decEqFields x y
      decidable_of_iff ((k = l ∧ a = b) ∧ x = y) (by simp)

end

instance : DecidableEq (Json S) := decEq

end Equality

/-- The document is an object. -/
def isObject : Json S → Bool
  | .obj _ => true
  | _ => false

/-- The string, if the document is one. -/
def text : Json S → Option S
  | .str s => some s
  | _ => none

/-- The number rounded toward zero, if the document is one. -/
def number : Json S → Option ℤ
  | .int n => some n
  | .real q => some (if 0 ≤ q then ⌊q⌋ else ⌈q⌉)
  | _ => none

/-- The truth value, if the document is one. -/
def truth : Json S → Option Bool
  | .bool b => some b
  | _ => none

/-- The number, if the document is a whole number that is not negative. -/
def unsigned : Json S → Option ℤ
  | .int n => if 0 ≤ n then some n else none
  | _ => none

/-- A number, or a truth value read as one. -/
def arithmetic : Json S → Option ℤ
  | .bool b => some (if b then 1 else 0)
  | j => j.number

/-- What a loop over the document runs through. -/
def elements : Json S → List (Json S)
  | .null => []
  | .arr l => l
  | .obj fields => fields.map Prod.snd
  | j => [j]

section Fields

variable [DecidableEq S]

/-- The field `k` of an object. -/
def field? (k : S) : Json S → Option (Json S)
  | .obj fields => fields.lookup k
  | _ => none

/-- The document is an object with the field `k`. -/
def contains (k : S) (j : Json S) : Bool := (j.field? k).isSome

/-- The field `k` read by `get`, or the default if an object does not have it. -/
def value {α : Type u} (k : S) (get : Json S → Option α) (default : α) (j : Json S) :
    Option α :=
  if j.isObject then
    match j.field? k with
    | some v => get v
    | none => some default
  else none

/-- A field that is there with the right type is read, whatever the default. -/
theorem value_of_field {α : Type u} {k : S} {get : Json S → Option α} {default a : α}
    {j v : Json S} (hfield : j.field? k = some v) (hget : get v = some a) :
    j.value k get default = some a := by
  have hobj : j.isObject = true := by
    revert hfield
    cases j <;> simp [field?, isObject]
  rw [value, if_pos hobj, hfield]
  exact hget

/-! ### Assignments -/

/-- The fields of an object after an assignment to one of them. -/
def setField (k : S) (v : Json S) : List (S × Json S) → List (S × Json S)
  | [] => [(k, v)]
  | (l, w) :: fields => if l = k then (k, v) :: fields else (l, w) :: setField k v fields

/-- The assignment `j[k] = v`. What is not an object yet becomes one. -/
def assign (j : Json S) (k : S) (v : Json S) : Json S :=
  match j with
  | .obj fields => .obj (setField k v fields)
  | _ => .obj [(k, v)]

/-- An assignment that is made only under a condition. -/
def assignIf (j : Json S) (c : Prop) [Decidable c] (k : S) (v : Json S) : Json S :=
  if c then j.assign k v else j

variable {k l : S} {v j : Json S} {c : Prop} [Decidable c]

/-- Looking a key up compares it with the first key, then goes on. -/
private theorem lookup_cons_eq_ite {β : Type u} (p : S × β) (fields : List (S × β)) :
    (p :: fields).lookup l = if l = p.1 then some p.2 else fields.lookup l := by
  rw [List.lookup_cons]
  by_cases h : l = p.1
  · simp [h]
  · have hb : (l == p.1) = false := by simpa using h
    simp [h, hb]

/-- A field that was set is found again, and no other field moves. -/
private theorem lookup_setField (fields : List (S × Json S)) :
    (setField k v fields).lookup l = if l = k then some v else fields.lookup l := by
  induction fields with
  | nil => exact lookup_cons_eq_ite (k, v) []
  | cons p fields ih =>
    rw [setField, lookup_cons_eq_ite p]
    by_cases hp : p.1 = k
    · rw [if_pos hp, lookup_cons_eq_ite, hp]
      split_ifs <;> rfl
    · rw [if_neg hp, lookup_cons_eq_ite, ih]
      by_cases h : l = p.1
      · have hl : l ≠ k := h ▸ hp
        rw [if_pos h, if_neg hl, if_pos h]
      · rw [if_neg h, if_neg h]

/-- An assignment is seen at its own key and at no other. -/
@[simp]
theorem field?_assign : (j.assign k v).field? l = if l = k then some v else j.field? l := by
  cases j with
  | obj fields => exact lookup_setField fields
  | _ => exact lookup_cons_eq_ite (k, v) []

/-- So is an assignment under a condition, where the condition holds. -/
@[simp]
theorem field?_assignIf :
    (j.assignIf c k v).field? l = if l = k ∧ c then some v else j.field? l := by
  by_cases hc : c
  · simp [assignIf, hc]
  · simp [assignIf, hc]

/-- Assigning to a field makes an object of any document. -/
@[simp]
theorem isObject_assign : (j.assign k v).isObject = true := by
  cases j <;> rfl

/-- So does an assignment under a condition, where the condition holds. -/
@[simp]
theorem isObject_assignIf : (j.assignIf c k v).isObject = (decide c || j.isObject) := by
  by_cases hc : c
  · simp [assignIf, hc]
  · simp [assignIf, hc]

/-- The empty document has no field. -/
@[simp]
theorem field?_null : (null : Json S).field? k = none := rfl

/-- What `value` sees of an object is its field. -/
theorem value_of_isObject {α : Type u} {get : Json S → Option α} {default : α}
    (hj : j.isObject = true) :
    j.value k get default = ((j.field? k).map get).getD (some default) := by
  rw [value, if_pos hj]
  cases j.field? k with
  | none => rfl
  | some v => rfl

/-- The fields of an object are found one after the other. -/
@[simp]
theorem field?_cons {w : Json S} {fields : List (S × Json S)} :
    (obj ((k, w) :: fields)).field? l = if l = k then some w else (obj fields).field? l :=
  lookup_cons_eq_ite (k, w) fields

/-- An object without fields has none. -/
@[simp]
theorem field?_nil : (obj [] : Json S).field? l = none := rfl

/-- A field that is found is one of the object. -/
theorem exists_mem_of_field? {a : Json S} (h : j.field? k = some a) :
    ∃ fields, j = obj fields ∧ (k, a) ∈ fields := by
  cases j with
  | obj fields =>
    obtain ⟨l₁, l₂, heq, -⟩ := List.lookup_eq_some_iff.mp h
    exact ⟨fields, rfl, by simp [heq]⟩
  | _ => cases h

/-- A key of an object has a field. -/
theorem field?_of_mem_keys {fields : List (S × Json S)} (h : k ∈ fields.map Prod.fst) :
    ∃ a, (obj fields).field? k = some a ∧ (k, a) ∈ fields := by
  obtain ⟨a, ha⟩ : ∃ a, (obj fields).field? k = some a := by
    induction fields with
    | nil => simp at h
    | cons p fields ih =>
      by_cases hp : k = p.1
      · exact ⟨p.2, by rw [field?_cons, if_pos hp]⟩
      · obtain ⟨a, ha⟩ := ih ((List.mem_cons.mp h).resolve_left hp)
        exact ⟨a, by rw [field?_cons, if_neg hp, ha]⟩
  obtain ⟨fields', heq, hmem⟩ := exists_mem_of_field? ha
  cases heq
  exact ⟨a, ha, hmem⟩

end Fields

/-! ### Documents that were written and read -/

/-- What a loop over the document with its keys runs through: the elements of an array are
numbered by `number`, and a scalar counts as one element under `key`. -/
def items (number : ℕ → S) (key : S) : Json S → List (S × Json S)
  | .null => []
  | .arr l => l.mapIdx fun n j => (number n, j)
  | .obj fields => fields
  | j => [(key, j)]

/-- The documents are the same up to the order in which their objects list their fields. -/
inductive Same : Json S → Json S → Prop
  | refl (j : Json S) : Same j j
  | arr {l l' : List (Json S)} (h : List.Forall₂ Same l l') : Same (.arr l) (.arr l')
  | obj {fields fields' : List (S × Json S)}
      (keys : ∀ k, k ∈ fields.map Prod.fst ↔ k ∈ fields'.map Prod.fst)
      (values : ∀ k v v', (k, v) ∈ fields → (k, v') ∈ fields' → Same v v') :
      Same (.obj fields) (.obj fields')

namespace Same

variable {j j' v v' : Json S} {k : S}

/-- A text is the same document as itself only. -/
private theorem eq_str {s : S} (h : Same (.str s) j') : j' = .str s := by
  cases h
  rfl

/-- So is a number. -/
private theorem eq_int {n : ℤ} (h : Same (.int n) j') : j' = .int n := by
  cases h
  rfl

/-- So is a truth value. -/
private theorem eq_bool {b : Bool} (h : Same (.bool b) j') : j' = .bool b := by
  cases h
  rfl

/-- The elements of an array keep their places. -/
theorem exists_arr {l : List (Json S)} (h : Same (.arr l) j') :
    ∃ l', j' = .arr l' ∧ List.Forall₂ Same l l' := by
  cases h with
  | refl => exact ⟨l, rfl, List.forall₂_same.mpr fun a _ => .refl a⟩
  | arr h => exact ⟨_, rfl, h⟩

/-- The fields of an object that lists each key once keep their values. -/
theorem exists_obj {fields : List (S × Json S)} (hnodup : (fields.map Prod.fst).Nodup)
    (h : Same (.obj fields) j') :
    ∃ fields', j' = .obj fields' ∧
      (∀ k, k ∈ fields.map Prod.fst ↔ k ∈ fields'.map Prod.fst) ∧
      ∀ k v v', (k, v) ∈ fields → (k, v') ∈ fields' → Same v v' := by
  cases h with
  | refl =>
    refine ⟨fields, rfl, fun k => Iff.rfl, fun k v v' hv hv' => ?_⟩
    have hpair : (k, v) = (k, v') := List.inj_on_of_nodup_map hnodup hv hv' rfl
    cases hpair
    exact .refl v
  | obj keys values => exact ⟨_, rfl, keys, values⟩

variable [DecidableEq S]

/-- **A field is found again.** -/
theorem field? (h : Same j j') (hv : j.field? k = some v) :
    ∃ v', j'.field? k = some v' ∧ Same v v' := by
  obtain ⟨fields, rfl, hmem⟩ := exists_mem_of_field? hv
  cases h with
  | refl => exact ⟨v, hv, .refl v⟩
  | obj keys values =>
    have hk : k ∈ fields.map Prod.fst := List.mem_map.mpr ⟨_, hmem, rfl⟩
    obtain ⟨v', hv', hmem'⟩ := field?_of_mem_keys ((keys k).mp hk)
    exact ⟨v', hv', values k v v' hmem hmem'⟩

/-- A field that holds a text is found in every document that is the same up to the order of its
fields. -/
theorem field?_str {s : S} (h : Same j j') (hv : j.field? k = some (.str s)) :
    j'.field? k = some (.str s) := by
  obtain ⟨v', hv', hsame⟩ := h.field? hv
  rw [hv', hsame.eq_str]

/-- So is a field that holds a number. -/
theorem field?_int {n : ℤ} (h : Same j j') (hv : j.field? k = some (.int n)) :
    j'.field? k = some (.int n) := by
  obtain ⟨v', hv', hsame⟩ := h.field? hv
  rw [hv', hsame.eq_int]

omit [DecidableEq S] in
/-- The order of the fields does not matter. -/
theorem of_perm {fields fields' : List (S × Json S)} (h : fields.Perm fields')
    (hkeys : (fields.map Prod.fst).Nodup) : Same (.obj fields) (.obj fields') := by
  refine .obj (fun k => (h.map Prod.fst).mem_iff) fun k v v' hv hv' => ?_
  have heq : (k, v) = (k, v') :=
    List.inj_on_of_nodup_map hkeys hv (h.mem_iff.mpr hv') rfl
  obtain rfl := (Prod.mk.inj heq).2
  exact .refl v

/-- So is a field that holds a truth value. -/
theorem field?_bool {b : Bool} (h : Same j j') (hv : j.field? k = some (.bool b)) :
    j'.field? k = some (.bool b) := by
  obtain ⟨v', hv', hsame⟩ := h.field? hv
  rw [hv', hsame.eq_bool]

end Same

end Json

end TboxSec
