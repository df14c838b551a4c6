import Mathlib.Data.List.Pairwise
import Mathlib.Logic.Relation
import Mathlib.Order.Nat

/-!
# The journalled batch protocol

What a journalled store of key batches is for, in its own terms. A **document** holds the batch
that is active, its generation number and a journal of records, one for each request; the
store keeps the document in memory, rewrites it on disk, and can lose the memory at any time.
A request is taken up by a pending record of the next generation, its batch becomes active in
one write, and its record is then settled as succeeded or failed. A pending record that a
crash or a fault left behind is settled later, by its generation number alone.

`Step` lists everything such a store can do. What a particular store may do is a `Policy`:
when a request may be taken up, when a record may be settled by its evidence or by its
generation number, and whether the posting of a settled batch may go wrong.

`TboxSec.Journal.Invariants` proves what holds of every such store, and what a policy buys.
-/

namespace TboxSec.Journal

universe u v w z

/-- Whether a record is settled. -/
inductive Status where
  | pending | succeeded | failed
  deriving DecidableEq

/-- How records of type `E` describe batches of keys `ι` indexed by `κ`. -/
structure Scheme (E : Type u) (κ : Type v) (ι : Type w) where
  status : E → Status
  gen : E → ℕ
  batch : E → κ → Option ι
  /-- The version of a key. -/
  ver : ι → ℕ
  /-- Versions stay below this bound. -/
  top : ℕ
  /-- The indices every batch covers. -/
  keys : κ → Prop
  /-- The key can be found again when a record is settled by its generation. -/
  steady : ι → Prop
  /-- The second record is a later form of the first. -/
  kin : E → E → Prop

/-- A document: the active batch with its generation, and the journal. -/
structure Doc (ρ : Type z) (E : Type u) (κ : Type v) (ι : Type w) where
  gen : ℕ
  active : κ → Option ι
  entry : ρ → Option E

/-- The store. -/
structure Sys (ρ : Type z) (E : Type u) (κ : Type v) (ι : Type w) where
  /-- The document in memory. -/
  mem : Doc ρ E κ ι
  /-- The memory holds the store's document. -/
  loaded : Bool
  /-- The documents written so far, newest first. -/
  log : List (Doc ρ E κ ι)
  /-- The request being worked on. -/
  busy : Option ρ
  /-- The batch last posted; `none` when a posting went wrong. -/
  posted : Option (κ → Option ι)

/-- When a store may take the steps that are not always right. -/
structure Policy (ρ : Type z) (E : Type u) (κ : Type v) (ι : Type w) where
  /-- A request may be taken up with this record. -/
  start : Doc ρ E κ ι → ρ → E → Prop
  /-- A record may be settled as succeeded with the evidence it carries. -/
  certify : ρ → E → Prop
  /-- A pending record may be settled as succeeded by its generation. -/
  recover : ρ → E → Prop
  /-- A posting may go wrong. -/
  smudge : Prop

variable {ρ : Type z} {E : Type u} {κ : Type v} {ι : Type w}

/-- The policy that allows every step. -/
def Policy.any : Policy ρ E κ ι := ⟨fun _ _ _ => True, fun _ _ => True, fun _ _ => True, True⟩

namespace Doc

/-- The document before the first write. -/
def blank : Doc ρ E κ ι := ⟨0, fun _ => none, fun _ => none⟩

variable [DecidableEq ρ]

/-- Set the record of a request. -/
def put (m : Doc ρ E κ ι) (r : ρ) (e : E) : Doc ρ E κ ι :=
  { m with entry := Function.update m.entry r (some e) }

@[simp]
theorem put_gen (m : Doc ρ E κ ι) (r : ρ) (e : E) : (m.put r e).gen = m.gen := rfl

@[simp]
theorem put_active (m : Doc ρ E κ ι) (r : ρ) (e : E) : (m.put r e).active = m.active := rfl

@[simp]
theorem put_entry_self (m : Doc ρ E κ ι) (r : ρ) (e : E) : (m.put r e).entry r = some e := by
  simp [put]

theorem put_entry_of_ne (m : Doc ρ E κ ι) {r x : ρ} (e : E) (h : x ≠ r) :
    (m.put r e).entry x = m.entry x := by
  simp [put, h]

/-- A record of the new document is the one set, or was there before. -/
theorem put_entry_eq_some {m : Doc ρ E κ ι} {r x : ρ} {e e' : E}
    (h : (m.put r e).entry x = some e') : (x = r ∧ e' = e) ∨ (x ≠ r ∧ m.entry x = some e') := by
  by_cases hx : x = r
  · subst hx
    rw [put_entry_self] at h
    exact .inl ⟨rfl, (Option.some.inj h).symm⟩
  · rw [put_entry_of_ne m e hx] at h
    exact .inr ⟨hx, h⟩

end Doc

namespace Sys

/-- The last document written. -/
def latest (s : Sys ρ E κ ι) : Doc ρ E κ ι := s.log.headD .blank

/-- The store before its first start. -/
def fresh : Sys ρ E κ ι := ⟨.blank, false, [], none, some fun _ => none⟩

/-- The document in memory is replaced. -/
def withMem (s : Sys ρ E κ ι) (m : Doc ρ E κ ι) : Sys ρ E κ ι := { s with mem := m }

/-- The document in memory is written. -/
def flush (s : Sys ρ E κ ι) : Sys ρ E κ ι := { s with log := s.mem :: s.log }

end Sys

namespace Scheme

variable (S : Scheme E κ ι)

/-- The batch covers exactly the indices. -/
def Shaped (b : κ → Option ι) : Prop := ∀ k, (b k).isSome ↔ S.keys k

/-- Every key of the batch is newer than the one active under its index. -/
def Newer (b active : κ → Option ι) : Prop :=
  ∀ k i j, b k = some i → active k = some j → S.ver j < S.ver i

/-- The versions of the batch are positive and below the bound. -/
def Bounded (b : κ → Option ι) : Prop := ∀ k i, b k = some i → 0 < S.ver i ∧ S.ver i < S.top

/-- Two records of one request that describe the same batch under the same generation. -/
structure Alike (e e' : E) : Prop where
  gen : S.gen e' = S.gen e
  batch : S.batch e' = S.batch e
  kin : S.kin e e'

end Scheme

open Relation

section Steps

variable [DecidableEq ρ] (S : Scheme E κ ι) (π : Policy ρ E κ ι)

/-- Everything a store does. -/
inductive Step : Sys ρ E κ ι → Sys ρ E κ ι → Prop
  /-- A request is taken up, under the next generation. -/
  | start {s : Sys ρ E κ ι} {r : ρ} {e : E} (hl : s.loaded = true) (hb : s.busy = none)
      (hp : S.status e = .pending) (hg : S.gen e = s.mem.gen + 1)
      (hs : S.Shaped (S.batch e)) (hv : S.Bounded (S.batch e))
      (hn : S.Newer (S.batch e) s.mem.active) (hπ : π.start s.mem r e) :
      Step s { s with mem := s.mem.put r e, busy := some r }
  /-- The record being worked on changes, but stays pending. -/
  | update {s : Sys ρ E κ ι} {r : ρ} {e e' : E} (hl : s.loaded = true) (hb : s.busy = some r)
      (he : s.mem.entry r = some e) (hp : S.status e = .pending) (ha : S.Alike e e')
      (hp' : S.status e' = .pending) :
      Step s (s.withMem (s.mem.put r e'))
  /-- The batch becomes active and is written, in one step. -/
  | commit {s : Sys ρ E κ ι} {r : ρ} {e : E} (hl : s.loaded = true) (hb : s.busy = some r)
      (he : s.mem.entry r = some e) (hp : S.status e = .pending)
      (hg : S.gen e = s.mem.gen + 1) :
      Step s (s.withMem { s.mem with gen := S.gen e, active := S.batch e }).flush
  /-- The work on a record ends without settling it. -/
  | unlock {s : Sys ρ E κ ι} : Step s { s with busy := none }
  /-- A pending record is settled as failed. -/
  | fail {s : Sys ρ E κ ι} {r : ρ} {e e' : E} (hl : s.loaded = true)
      (hb : s.busy = none ∨ s.busy = some r) (he : s.mem.entry r = some e)
      (hp : S.status e = .pending) (ha : S.Alike e e') (hf : S.status e' = .failed)
      (hg : S.gen e = s.mem.gen → 0 < s.mem.gen →
        ∃ k i, s.mem.active k = some i ∧ ¬ S.steady i) :
      Step s (s.withMem (s.mem.put r e'))
  /-- A pending record is settled as succeeded and its batch posted. The write of the record
  may fail, and so may the posting if the policy allows it. -/
  | succeed {s : Sys ρ E κ ι} {r : ρ} {e e' : E} {written : Bool}
      {p : Option (κ → Option ι)} (hl : s.loaded = true)
      (hb : s.busy = none ∨ s.busy = some r) (he : s.mem.entry r = some e)
      (hp : S.status e = .pending) (ha : S.Alike e e') (hs : S.status e' = .succeeded)
      (hg : S.gen e = s.mem.gen) (hpos : 0 < s.mem.gen) (hπ : π.certify r e' ∨ π.recover r e)
      (hpost : p = some (S.batch e') ∨ p = none ∧ π.smudge) :
      Step s
        { s with
          mem := s.mem.put r e'
          log := if written then s.mem.put r e' :: s.log else s.log
          posted := p }
  /-- The document is written. -/
  | flush {s : Sys ρ E κ ι} (hl : s.loaded = true) : Step s s.flush
  /-- The process dies. -/
  | crash {s : Sys ρ E κ ι} : Step s { s with mem := .blank, loaded := false, busy := none }
  /-- The last document written, if there is one, is read back. -/
  | load {s : Sys ρ E κ ι} (hb : s.busy = none) :
      Step s { s with mem := s.log.headD s.mem, loaded := true }

/-- Any number of steps. -/
abbrev Steps : Sys ρ E κ ι → Sys ρ E κ ι → Prop := ReflTransGen (Step S π)

end Steps

end TboxSec.Journal
