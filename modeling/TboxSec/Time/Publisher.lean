import TboxSec.Time.Types
import Mathlib.Data.List.Nodup

/-!
# Time events

`TrustedTimeMonitor` and `FakeTrustedTimeSnapshotSource` number and deliver their events with
the same code: `publishIfChangedLocked` and `subscribe`. An event is published when a **fact**
differs from the last event published; its number is the next of the sequence.

A subscriber is held weakly. The subscription lives in the **handle** that `subscribe` returns,
so an event reaches the callbacks whose handle is still held when it is published.

Two ghost fields record what happened: the events published and the deliveries made, newest
first. No code reads them.

* `Facts` are the fields whose change is an event, and `factChanged` the comparison of the source.
* `Publisher.Numbered` is the invariant: the history is ordered by the numbers, and the last number
  is the one of the sequence.
* `Describes` relates an answer to the event whose number it carries.
-/

namespace TboxSec.Time

/-- `factChanged`. -/
def factChanged (a b : TrustedTimeResult) : Bool :=
  a.sample.trustState != b.sample.trustState || a.sample.source != b.sample.source ||
    a.sourceId != b.sourceId || a.sample.sourceEpoch != b.sample.sourceEpoch ||
    a.timeDaemonEpoch != b.timeDaemonEpoch || a.systemClockAligned != b.systemClockAligned ||
    a.contractVersion != b.contractVersion || a.sample.reason != b.sample.reason

/-- The event part of a snapshot source. -/
structure Publisher where
  /-- `sec_time_event_sequence_`. -/
  sequence : ℕ := 0
  /-- `last_published_`, once `has_published_` is set. -/
  lastPublished : Option TrustedTimeResult := none
  /-- `subscribers_`, the slots in the order of subscription. -/
  subscribers : List ℕ := []
  /-- The slots whose handle is still held. -/
  handles : List ℕ := []
  /-- The next new slot. -/
  nextSlot : ℕ := 0
  /-- Ghost: every event published. -/
  published : List TrustedTimeResult := []
  /-- Ghost: every call of a callback, with the slot it belongs to. -/
  delivered : List (ℕ × TrustedTimeResult) := []
  deriving DecidableEq

namespace Publisher

/-- `subscribe`: the handle is with the caller. -/
def subscribe (p : Publisher) : Publisher :=
  { p with
    subscribers := p.subscribers ++ [p.nextSlot]
    handles := p.nextSlot :: p.handles
    nextSlot := p.nextSlot + 1 }

/-- The handle of a slot is destroyed. -/
def release (p : Publisher) (slot : ℕ) : Publisher :=
  { p with handles := p.handles.filter (· != slot) }

/-- The slots that can still be locked. -/
def live (p : Publisher) : List ℕ := p.subscribers.filter p.handles.contains

/-- An event is published: the next number, and one call of every live callback. -/
def publish (p : Publisher) (r : TrustedTimeResult) : Publisher :=
  let e := { r with secTimeEventSequence := p.sequence + 1 }
  { p with
    sequence := p.sequence + 1
    lastPublished := some e
    published := e :: p.published
    delivered := (p.live.map fun slot => (slot, e)).reverse ++ p.delivered }

/-- The facts of `r` differ from those of the last event, or there is none. -/
def changes (p : Publisher) (r : TrustedTimeResult) : Bool :=
  match p.lastPublished with
  | none => true
  | some e => factChanged e r

/-- `publishIfChangedLocked`. -/
def publishIfChanged (p : Publisher) (r : TrustedTimeResult) : Publisher :=
  if p.changes r then p.publish r else p

/-- What the callback of a slot was given, newest first. -/
def deliveredTo (p : Publisher) (slot : ℕ) : List TrustedTimeResult :=
  (p.delivered.filter (·.1 == slot)).map Prod.snd

end Publisher

/-! ### Facts -/

/-- The two results agree on every fact. -/
def SameFacts (a b : TrustedTimeResult) : Prop := factChanged a b = false

instance (a b : TrustedTimeResult) : Decidable (SameFacts a b) :=
  inferInstanceAs (Decidable (factChanged a b = false))

/-- The facts of a result. -/
structure Facts where
  trustState : Keyprov.TimeTrustState
  source : TimeSource
  sourceId : String
  sourceEpoch : ℕ
  timeDaemonEpoch : ℕ
  systemClockAligned : Bool
  contractVersion : ℕ
  reason : TimeReason
  deriving DecidableEq

/-- What `factChanged` compares. -/
def TrustedTimeResult.facts (r : TrustedTimeResult) : Facts where
  trustState := r.sample.trustState
  source := r.sample.source
  sourceId := r.sourceId
  sourceEpoch := r.sample.sourceEpoch
  timeDaemonEpoch := r.timeDaemonEpoch
  systemClockAligned := r.systemClockAligned
  contractVersion := r.contractVersion
  reason := r.sample.reason

theorem sameFacts_iff {a b : TrustedTimeResult} : SameFacts a b ↔ a.facts = b.facts := by
  simp [SameFacts, factChanged, TrustedTimeResult.facts, and_assoc]

/-! ### The numbering of events -/

/-- The events are numbered upwards from one, and the last one is remembered. -/
structure Publisher.Numbered (p : Publisher) : Prop where
  ordered : p.published.Pairwise fun a b => b.secTimeEventSequence < a.secTimeEventSequence
  bounded : ∀ e ∈ p.published, e.secTimeEventSequence ≤ p.sequence
  last : ∀ e, p.lastPublished = some e → e ∈ p.published ∧ e.secTimeEventSequence = p.sequence
  first : p.lastPublished = none → p.published = [] ∧ p.sequence = 0

namespace Publisher

variable {p : Publisher}

theorem numbered_empty : Numbered {} where
  ordered := .nil
  bounded := fun e he => (by cases he)
  last := fun e he => (by cases he)
  first := fun _ => ⟨rfl, rfl⟩

theorem Numbered.publish (h : p.Numbered) (r : TrustedTimeResult) : (p.publish r).Numbered where
  ordered := by
    refine List.pairwise_cons.mpr ⟨fun e he => ?_, h.ordered⟩
    exact Nat.lt_succ_of_le (h.bounded e he)
  bounded := by
    intro e he
    rcases List.mem_cons.mp he with rfl | he
    · exact le_rfl
    · exact (h.bounded e he).trans (Nat.le_succ _)
  last := by
    intro e he
    obtain rfl := Option.some.inj he
    exact ⟨List.mem_cons_self .., rfl⟩
  first := fun he => (by cases he)

theorem Numbered.publishIfChanged (h : p.Numbered) (r : TrustedTimeResult) :
    (p.publishIfChanged r).Numbered := by
  unfold Publisher.publishIfChanged
  split
  · exact h.publish r
  · exact h

/-- An event with this number and these facts was published. -/
def Describes (p : Publisher) (r : TrustedTimeResult) : Prop :=
  ∃ e ∈ p.published, e.secTimeEventSequence = r.secTimeEventSequence ∧ SameFacts e r

theorem published_publishIfChanged_suffix (p : Publisher) (r : TrustedTimeResult) :
    p.published <:+ (p.publishIfChanged r).published := by
  unfold publishIfChanged
  split
  · exact List.suffix_cons ..
  · exact List.suffix_rfl

/-- The last event describes what was just offered for publication. -/
theorem last_publishIfChanged (h : p.Numbered) (r : TrustedTimeResult) :
    ∃ e ∈ (p.publishIfChanged r).published,
      e.secTimeEventSequence = (p.publishIfChanged r).sequence ∧ SameFacts e r := by
  unfold publishIfChanged
  cases hlast : p.lastPublished with
  | none =>
    rw [if_pos (by simp [changes, hlast])]
    exact ⟨_, List.mem_cons_self .., rfl, sameFacts_iff.mpr rfl⟩
  | some e =>
    cases hchanged : factChanged e r with
    | true =>
      rw [if_pos (by simp [changes, hlast, hchanged])]
      exact ⟨_, List.mem_cons_self .., rfl, sameFacts_iff.mpr rfl⟩
    | false =>
      rw [if_neg (by simp [changes, hlast, hchanged])]
      exact ⟨e, (h.last e hlast).1, (h.last e hlast).2, hchanged⟩

/-- Two results described by events with the same number agree on every fact. -/
theorem Numbered.sameFacts_of_describes (h : p.Numbered) {a b : TrustedTimeResult}
    (ha : p.Describes a) (hb : p.Describes b)
    (hseq : a.secTimeEventSequence = b.secTimeEventSequence) : SameFacts a b := by
  obtain ⟨e, he, hea, hfa⟩ := ha
  obtain ⟨e', he', heb, hfb⟩ := hb
  have hnodup : (p.published.map (·.secTimeEventSequence)).Nodup :=
    List.pairwise_map.mpr (h.ordered.imp fun hlt => hlt.ne')
  have hee : e = e' :=
    List.inj_on_of_nodup_map hnodup he he' ((hea.trans hseq).trans heb.symm)
  subst hee
  rw [sameFacts_iff] at hfa hfb ⊢
  exact hfa.symm.trans hfb

end Publisher

end TboxSec.Time
