import TboxSec.Time.Lease
import TboxSec.Time.Fake
import Mathlib.Data.List.ReduceOption

/-!
# Snapshots and events

A snapshot and an event carry the same sequence number so that a consumer can order them, and
every event is meant to reach the IPC server.

* **Numbering.** The monitor stamps a result with the number of the last event *before* the
  result itself is published. The stamp is right as long as nothing changes; after a change the
  cache carries the number of the event before. The development source numbers its answer after
  publishing, and is always right.
* **Delivery.** The application subscribes and lets the handle go at once, so its slot is dead
  before the first event.
-/

namespace TboxSec.Time

variable {S : Setup} {m m' : Monitor} {r : TrustedTimeResult} {p : Publisher}

/-! ### What a step publishes -/

/-- What the refresh part of a loop pass offers for publication. -/
def Monitor.cacheOffer (S : Setup) (m : Monitor) (e : Env) (now : ℤ) : Option TrustedTimeResult :=
  if m.refreshPending || decide (now - m.lastRefreshBootMs ≥ S.cfg.monitorRefreshInterval) then
    some (m.refreshed S e)
  else
    match m.cached with
    | none => none
    | some r =>
      if r.granted && decide (now - m.lastRefreshBootMs ≥ r.remainingValidityMs) then
        some (m.revoked r .timeExpired)
      else none

/-- What a step offers for publication: the result it caches, if it caches one. -/
def Monitor.offer (S : Setup) (m : Monitor) : Act → Option TrustedTimeResult
  | .loopPass e =>
    if !m.running then none
    else
      let now := m.boot + e.beforeLoop
      (Monitor.manageConnection S { m with boot := now } e now).cacheOffer S e now
  | .get token e =>
    if m.refusesToken token || m.cached.isSome then none else some (m.refreshed S e)
  | _ => none

/-- The events after a step that offers `o` for publication. -/
def Publisher.offered (p : Publisher) (o : Option TrustedTimeResult) : Publisher :=
  match o with
  | none => p
  | some r => p.publishIfChanged r

/-- What a step that offers `o` for publication can do to the events. -/
inductive Publisher.Next (p : Publisher) (o : Option TrustedTimeResult) : Publisher → Prop
  | offered : Next p o (p.offered o)
  | subscribed (h : o = none) : Next p o p.subscribe
  | released (h : o = none) (slot : ℕ) : Next p o (p.release slot)
  | cleared (h : o = none) : Next p o { p with subscribers := [] }

/-- Connecting and disconnecting publish nothing. -/
private theorem events_manageConnection (e : Env) (now : ℤ) :
    (m.manageConnection S e now).events = m.events := by
  obtain ⟨_, _, _, _, hframe⟩ := m.manageConnection_frame (S := S) e now
  rw [hframe]

/-- The part of a poll that looks after the cache publishes what it offers, if that is a change. -/
private theorem events_manageCache (e : Env) (now : ℤ) :
    (m.manageCache S e now).events = m.events.offered (m.cacheOffer S e now) := by
  unfold Monitor.manageCache Monitor.cacheOffer
  cases hpending : m.refreshPending with
  | true => rfl
  | false =>
    simp only [Bool.false_eq_true, if_false, Bool.false_or, decide_eq_true_eq]
    split
    · rfl
    cases hcached : m.cached with
    | none => rfl
    | some r =>
      simp only
      split <;> rfl

/-- Starting and stopping offer nothing. -/
private theorem offer_of_isControl {a : Act} (ha : a.isControl = true) : m.offer S a = none := by
  cases a with
  | start | stopLocked | stopJoin | stopDisconnect => rfl
  | _ => cases ha

/-- **The events after a step of the monitor.** -/
theorem events_step (S : Setup) (m : Monitor) (a : Act) :
    m.events.Next (m.offer S a) ((monitor S).step m a).1.events := by
  change m.events.Next (m.offer S a) (m.step S a).1.events
  have hsame : ∀ p, p = m.events.offered (m.offer S a) → m.events.Next (m.offer S a) p := by
    rintro p rfl
    exact .offered
  by_cases ha : a.isControl = true
  · obtain ⟨_, _, _, _, _, _, _, -, hstep⟩ := m.step_of_isControl (S := S) ha
    rw [hstep, offer_of_isControl ha]
    exact .offered
  cases a with
  | start | stopLocked | stopJoin | stopDisconnect => exact absurd rfl ha
  | loopPass e =>
    refine hsame _ ?_
    change (m.loopPass S e).events = m.events.offered (m.offer S (.loopPass e))
    unfold Monitor.loopPass Monitor.offer
    cases hrunning : m.running with
    | false => rfl
    | true =>
      -- the connection part publishes nothing, so the offer is that of the refresh part
      simp only [Bool.not_true, Bool.false_eq_true, if_false]
      rw [events_manageCache, events_manageConnection]
  | get token e =>
    refine hsame _ ?_
    change (m.get S token e).1.events = m.events.offered (m.offer S (.get token e))
    cases hrefused : m.refusesToken token with
    | true => simp [Monitor.get, Monitor.offer, Publisher.offered, hrefused]
    | false =>
      cases hcached : m.cached with
      | some r =>
        simp [Monitor.get, Monitor.offer, Monitor.beforeReading, Publisher.offered, hrefused,
          hcached]
      | none =>
        simp only [Monitor.get, Monitor.offer, Monitor.beforeReading, hrefused, hcached,
          Option.isSome_none, Option.isNone_none, Bool.or_false, Bool.false_eq_true, if_false,
          if_true]
        rfl
  | subscribe => exact .subscribed rfl
  | release slot => exact .released rfl slot
  | refreshNow => exact hsame _ rfl
  | providerNow e => exact hsame _ rfl
  | linkLost => exact hsame _ rfl
  | tick ms => exact hsame _ rfl

/-- What a step of the development source offers for publication. -/
def FakeSource.offer (leaseMax : ℤ) (s : FakeSource) : FakeAct → Option TrustedTimeResult
  | .start boot sample =>
    if s.running then none
    else
      some (FakeSource.snapshot leaseMax
        { s with secDaemonEpoch := if s.secDaemonEpoch = 0 then 1 + boot else s.secDaemonEpoch }
        sample)
  | .get token sample =>
    if s.refusesToken token then none else some (s.snapshot leaseMax sample)
  | _ => none

/-- **The events after a step of the development source.** -/
theorem events_fakeStep (leaseMax : ℤ) (s : FakeSource) (a : FakeAct) :
    s.events.Next (s.offer leaseMax a) ((fakeSource leaseMax).step s a).1.events := by
  change s.events.Next (s.offer leaseMax a) (s.step leaseMax a).1.events
  have hsame : ∀ p, p = s.events.offered (s.offer leaseMax a) →
      s.events.Next (s.offer leaseMax a) p := by
    rintro p rfl
    exact .offered
  cases a with
  | start boot sample =>
    refine hsame _ ?_
    change (s.start leaseMax boot sample).events = s.events.offered (s.offer leaseMax _)
    unfold FakeSource.start FakeSource.offer
    cases hrunning : s.running <;> rfl
  | get token sample =>
    refine hsame _ ?_
    change (s.get leaseMax token sample).1.events = s.events.offered (s.offer leaseMax _)
    cases hrefused : s.refusesToken token with
    | true => simp [FakeSource.get, FakeSource.offer, Publisher.offered, hrefused]
    | false => simp [FakeSource.get, FakeSource.offer, Publisher.offered, hrefused]
  | stop => exact .cleared rfl
  | subscribe => exact .subscribed rfl
  | release slot => exact .released rfl slot

namespace Publisher

variable {o : Option TrustedTimeResult} {p' : Publisher}

/-- A publisher that numbers its events in order still does after the next offer. -/
private theorem Next.numbered (h : p.Next o p') (hn : p.Numbered) : p'.Numbered := by
  cases h with
  | offered =>
    cases o with
    | none => exact hn
    | some r => exact hn.publishIfChanged r
  | subscribed h => exact ⟨hn.ordered, hn.bounded, hn.last, hn.first⟩
  | released h slot => exact ⟨hn.ordered, hn.bounded, hn.last, hn.first⟩
  | cleared h => exact ⟨hn.ordered, hn.bounded, hn.last, hn.first⟩

/-- Events stay published. -/
private theorem Next.suffix (h : p.Next o p') : p.published <:+ p'.published := by
  cases h with
  | offered =>
    cases o with
    | none => exact List.suffix_rfl
    | some r => exact published_publishIfChanged_suffix p r
  | subscribed h => exact List.suffix_rfl
  | released h slot => exact List.suffix_rfl
  | cleared h => exact List.suffix_rfl

/-- What described a result before describes it in a longer history as well, because events are
never taken back. -/
private theorem Describes.of_suffix {a : TrustedTimeResult} (ha : p.Describes a)
    (h : p.published <:+ p'.published) : p'.Describes a := by
  obtain ⟨e, he, hseq, hfacts⟩ := ha
  exact ⟨e, h.subset he, hseq, hfacts⟩

/-- Where nothing was offered, the number and the history are as before. -/
private theorem Next.of_none (h : p.Next none p') :
    p'.sequence = p.sequence ∧ p'.published = p.published := by
  cases h with
  | offered => exact ⟨rfl, rfl⟩
  | subscribed h => exact ⟨rfl, rfl⟩
  | released h slot => exact ⟨rfl, rfl⟩
  | cleared h => exact ⟨rfl, rfl⟩

/-- Where a result was offered, it was published if it is a change. -/
private theorem Next.of_some {r : TrustedTimeResult}
    (h : p.Next (some r) p') : p' = p.publishIfChanged r := by
  cases h with
  | offered => rfl
  | subscribed h => cases h
  | released h slot => cases h
  | cleared h => cases h

end Publisher

/-! ### Numbering of the monitor's answers -/

/-- Dropping an empty lease keeps the number of a result. -/
private theorem sequence_dropEmptyLease :
    (Monitor.dropEmptyLease r).secTimeEventSequence = r.secTimeEventSequence := by
  unfold Monitor.dropEmptyLease
  split <;> rfl

/-- A fresh result is stamped with the number of the last event. -/
private theorem sequence_refreshed (e : Env) :
    (m.refreshed S e).secTimeEventSequence = m.events.sequence := sequence_dropEmptyLease

/-- Connecting and disconnecting leave the cache alone. -/
private theorem cached_manageConnection (e : Env) (now : ℤ) :
    (m.manageConnection S e now).cached = m.cached := by
  obtain ⟨_, _, _, _, hframe⟩ := m.manageConnection_frame (S := S) e now
  rw [hframe]

/-- The cache holds the result that was offered, stamped with the number before its publication, or
what it held. -/
private theorem cached_manageCache (e : Env) (now : ℤ) :
    (∃ r, m.cacheOffer S e now = some r ∧ (m.manageCache S e now).cached = some r ∧
      r.secTimeEventSequence = m.events.sequence) ∨
    (m.cacheOffer S e now = none ∧ (m.manageCache S e now).cached = m.cached) := by
  unfold Monitor.manageCache Monitor.cacheOffer
  cases hpending : m.refreshPending with
  | true => exact .inl ⟨_, rfl, rfl, sequence_refreshed e⟩
  | false =>
    simp only [Bool.false_eq_true, if_false, Bool.false_or, decide_eq_true_eq]
    split
    · exact .inl ⟨_, rfl, rfl, sequence_refreshed e⟩
    cases hcached : m.cached with
    | none => exact .inr ⟨rfl, hcached⟩
    | some r =>
      simp only
      split
      · exact .inl ⟨_, rfl, rfl, rfl⟩
      · exact .inr ⟨rfl, hcached⟩

/-- **The cache after a step**: what the step offers for publication, stamped with the sequence
number before it; else what it was, or nothing. -/
theorem cached_step (S : Setup) (m : Monitor) (a : Act) :
    (∃ r, m.offer S a = some r ∧ ((monitor S).step m a).1.cached = some r ∧
      r.secTimeEventSequence = m.events.sequence) ∨
    (m.offer S a = none ∧ (((monitor S).step m a).1.cached = m.cached ∨
      ((monitor S).step m a).1.cached = none)) := by
  change (∃ r, m.offer S a = some r ∧ (m.step S a).1.cached = some r ∧ _) ∨
    (m.offer S a = none ∧ ((m.step S a).1.cached = m.cached ∨ (m.step S a).1.cached = none))
  by_cases ha : a.isControl = true
  · obtain ⟨_, _, _, _, _, _, cached, hcached, hstep⟩ := m.step_of_isControl (S := S) ha
    rw [hstep]
    exact .inr ⟨offer_of_isControl ha, hcached⟩
  cases a with
  | start | stopLocked | stopJoin | stopDisconnect => exact absurd rfl ha
  | loopPass e =>
    change (∃ r, m.offer S (.loopPass e) = some r ∧ (m.loopPass S e).cached = some r ∧ _) ∨
      (m.offer S (.loopPass e) = none ∧ ((m.loopPass S e).cached = m.cached ∨ _))
    cases hrunning : m.running with
    | false => exact .inr (by simp [Monitor.loopPass, Monitor.offer, hrunning])
    | true =>
      have hrun : ¬ (!m.running) = true := by simp [hrunning]
      rw [Monitor.loopPass, Monitor.offer, if_neg hrun, if_neg hrun]
      -- the connection part leaves cache and events alone
      rcases cached_manageCache (S := S)
        (m := Monitor.manageConnection S { m with boot := m.boot + e.beforeLoop } e
          (m.boot + e.beforeLoop)) e (m.boot + e.beforeLoop) with ⟨r, ho, hc, hs⟩ | ⟨ho, hc⟩
      · exact .inl ⟨r, ho, hc, by rw [hs, events_manageConnection]⟩
      · exact .inr ⟨ho, .inl (by rw [hc, cached_manageConnection])⟩
  | get token e =>
    change (∃ r, m.offer S (.get token e) = some r ∧ (m.get S token e).1.cached = some r ∧ _) ∨
      (m.offer S (.get token e) = none ∧ ((m.get S token e).1.cached = m.cached ∨ _))
    cases hrefused : m.refusesToken token with
    | true => exact .inr (by simp [Monitor.get, Monitor.offer, hrefused])
    | false =>
      cases hcached : m.cached with
      | some r =>
        exact .inr (by simp [Monitor.get, Monitor.offer, Monitor.beforeReading, hrefused, hcached])
      | none =>
        refine .inl ⟨m.refreshed S e, ?_, ?_, sequence_refreshed e⟩
        · simp [Monitor.offer, hrefused, hcached]
        · simp only [Monitor.get, Monitor.beforeReading, hrefused, hcached, Option.isNone_none,
            Bool.false_eq_true, if_false, if_true]
          rfl
  | refreshNow => exact .inr ⟨rfl, .inl rfl⟩
  | providerNow e => exact .inr ⟨rfl, .inl rfl⟩
  | linkLost => exact .inr ⟨rfl, .inl rfl⟩
  | tick ms => exact .inr ⟨rfl, .inl rfl⟩
  | subscribe => exact .inr ⟨rfl, .inl rfl⟩
  | release slot => exact .inr ⟨rfl, .inl rfl⟩

/-- The cache carries the number of the last event, or there is none and the sources still say
what the last event says; and if it is trusted, its lease lasts until `get` reads the clock. -/
def Monitor.Settled (S : Setup) (m : Monitor) (e : Env) : Prop :=
  match m.cached with
  | some r =>
    r.secTimeEventSequence = m.events.sequence ∧
      (r.granted = true →
        max 0 (m.boot + e.beforeReply - m.lastRefreshBootMs) < r.remainingValidityMs)
  | none =>
    m.events.changes (m.refreshed S e) = false ∧
      ((m.refreshed S e).granted = true →
        e.beforeQuery + e.beforeReceive + e.beforeGate + e.beforeReply <
          (m.refreshed S e).remainingValidityMs)

/-- Every `get` of the run that is not refused reads a settled cache. -/
def Act.Settled (S : Setup) (m : Monitor) : Act → Prop
  | .get token e => m.refusesToken token = true ∨ m.Settled S e
  | _ => True

/-- The answers given so far are described by events, and so is the cache as long as its stamp is
current. -/
structure Traced (rs : List (Option TrustedTimeResult)) (m : Monitor) : Prop where
  numbered : m.events.Numbered
  current : ∀ r, m.cached = some r → r.secTimeEventSequence = m.events.sequence →
    m.events.Describes r
  answered : ∀ r, some r ∈ rs → r.errorClass ≠ "stale" → m.events.Describes r

/-- A cached result with the current number is described by the events, and after a step it still
is. -/
private theorem current_step (hn : m.events.Numbered)
    (h : ∀ r, m.cached = some r → r.secTimeEventSequence = m.events.sequence →
      m.events.Describes r) (a : Act) :
    ∀ r, ((monitor S).step m a).1.cached = some r →
      r.secTimeEventSequence = ((monitor S).step m a).1.events.sequence →
      ((monitor S).step m a).1.events.Describes r := by
  have hnext := events_step S m a
  intro r hr hseq
  rcases cached_step S m a with ⟨r', ho, hcached, hstamp⟩ | ⟨ho, hcached | hcached⟩
  · -- a current stamp means that the result was not published, so the last event describes it
    rw [ho] at hnext
    rw [hcached] at hr
    obtain rfl := Option.some.inj hr
    rw [hnext.of_some] at hseq ⊢
    obtain ⟨e, he, heseq, hfacts⟩ := Publisher.last_publishIfChanged hn r'
    exact ⟨e, he, heseq.trans hseq.symm, hfacts⟩
  · rw [ho] at hnext
    obtain ⟨hsame, hpub⟩ := hnext.of_none
    rw [hcached] at hr
    exact (h r hr (hseq.trans hsame)).of_suffix (by rw [hpub])
  · rw [hcached] at hr
    cases hr

/-- With some lease left, `get` shows the facts and the number of the cache. -/
private theorem shown_facts (hlease : r.granted = true →
      max 0 (m.boot - m.lastRefreshBootMs) < r.remainingValidityMs) :
    (m.shown r).facts = r.facts ∧
      (m.shown r).secTimeEventSequence = r.secTimeEventSequence := by
  unfold Monitor.shown
  split
  · rename_i hgranted
    have hleft := hlease hgranted
    simp only
    rw [if_neg (by omega)]
    exact ⟨rfl, rfl⟩
  · exact ⟨rfl, rfl⟩

/-- What `get` then reads carries the number of the last event and has some of its lease left. -/
theorem Monitor.Settled.read {e : Env} (h : m.Settled S e) :
    ∃ r, (m.beforeReading S e).cached = some r ∧
      r.secTimeEventSequence = (m.beforeReading S e).events.sequence ∧
      (r.granted = true →
        max 0 ((m.beforeReading S e).boot - (m.beforeReading S e).lastRefreshBootMs) <
          r.remainingValidityMs) := by
  unfold Monitor.Settled at h
  cases hcached : m.cached with
  | some r =>
    simp only [hcached] at h
    have hread : m.beforeReading S e = { m with boot := m.boot + e.beforeReply } := by
      simp [Monitor.beforeReading, hcached]
    rw [hread]
    exact ⟨r, hcached, h⟩
  | none =>
    simp only [hcached] at h
    have hread : m.beforeReading S e =
        { m.refresh S e with boot := (m.refresh S e).boot + e.beforeReply } := by
      simp [Monitor.beforeReading, hcached]
    rw [hread]
    refine ⟨m.refreshed S e, rfl, ?_, fun hgranted => ?_⟩
    · -- nothing is published, so the number stamped before is still the current one
      change _ = (m.events.publishIfChanged (m.refreshed S e)).sequence
      rw [sequence_refreshed, Publisher.publishIfChanged, if_neg (by simp [h.1])]
    · have hleft := h.2 hgranted
      change max 0 (m.boot + e.beforeRefresh + e.beforeQuery + e.beforeReceive + e.beforeGate +
        e.beforeReply - (m.boot + e.beforeRefresh)) < _
      omega

/-- **One step of the monitor.** A result that `get()` returns under the condition is described by
the event whose number it carries. -/
theorem traced_step {rs : List (Option TrustedTimeResult)} (h : Traced rs m) {a : Act}
    (ha : a.Settled S m) :
    Traced (rs ++ [((monitor S).step m a).2]) ((monitor S).step m a).1 := by
  have hnext := events_step S m a
  have hcurrent := current_step (S := S) h.numbered h.current a
  refine ⟨hnext.numbered h.numbered, hcurrent, fun r hr hfresh => ?_⟩
  rcases List.mem_append.mp hr with hr | hr
  · exact (h.answered r hr hfresh).of_suffix hnext.suffix
  · have hr := List.mem_singleton.mp hr
    cases a with
    | get token e =>
      obtain rfl : r = (m.get S token e).2 := Option.some.inj hr
      change (m.get S token e).1.events.Describes (m.get S token e).2
      replace hcurrent : ∀ r, (m.get S token e).1.cached = some r →
        r.secTimeEventSequence = (m.get S token e).1.events.sequence →
        (m.get S token e).1.events.Describes r := hcurrent
      cases hrefused : m.refusesToken token with
      | true =>
        rw [Monitor.get, if_pos hrefused] at hfresh
        exact absurd rfl hfresh
      | false =>
        -- a `get` that is not refused reads a settled cache
        have hsettled : m.Settled S e := by
          rcases ha with ha | ha
          · rw [hrefused] at ha
            cases ha
          · exact ha
        have hget : m.get S token e = (m.beforeReading S e,
            (m.beforeReading S e).shown ((m.beforeReading S e).cached.getD {})) := by
          rw [Monitor.get, if_neg (by simp [hrefused])]
        rw [hget] at hcurrent ⊢
        obtain ⟨r, hcached, hstamp, hlease⟩ := hsettled.read
        obtain ⟨hfacts, hseq⟩ := shown_facts hlease
        obtain ⟨ev, hev, hevseq, hevfacts⟩ := hcurrent r hcached hstamp
        simp only [hcached, Option.getD_some]
        refine ⟨ev, hev, hevseq.trans hseq.symm, ?_⟩
        rw [sameFacts_iff] at hevfacts ⊢
        exact hevfacts.trans hfacts.symm
    | _ => cases hr

/-! ### Numbering of the development source's answers -/

structure FakeTraced (rs : List (Option TrustedTimeResult)) (s : FakeSource) : Prop where
  numbered : s.events.Numbered
  answered : ∀ r, some r ∈ rs → r.errorClass ≠ "stale" → s.events.Describes r

/-- **One step of the development source.** It numbers its answer after publishing, so no condition
is needed. -/
private theorem fakeTraced_step {leaseMax : ℤ} {rs : List (Option TrustedTimeResult)}
    {s : FakeSource}
    (h : FakeTraced rs s) (a : FakeAct) :
    FakeTraced (rs ++ [((fakeSource leaseMax).step s a).2]) ((fakeSource leaseMax).step s a).1 := by
  have hnext := events_fakeStep leaseMax s a
  refine ⟨hnext.numbered h.numbered, fun r hr hfresh => ?_⟩
  rcases List.mem_append.mp hr with hr | hr
  · exact (h.answered r hr hfresh).of_suffix hnext.suffix
  · have hr := List.mem_singleton.mp hr
    cases a with
    | get token sample =>
      obtain rfl : r = (s.get leaseMax token sample).2 := Option.some.inj hr
      change (s.get leaseMax token sample).1.events.Describes (s.get leaseMax token sample).2
      cases hrefused : s.refusesToken token with
      | true =>
        rw [FakeSource.get, if_pos hrefused] at hfresh
        exact absurd rfl hfresh
      | false =>
        rw [FakeSource.get, if_neg (by simp [hrefused])]
        obtain ⟨ev, hev, hevseq, hevfacts⟩ :=
          Publisher.last_publishIfChanged h.numbered (s.snapshot leaseMax sample)
        refine ⟨ev, hev, hevseq, ?_⟩
        rw [sameFacts_iff] at hevfacts ⊢
        exact hevfacts
    | _ => cases hr

/-! ### The sequence number identifies the facts -/

/-- The answers `rs` fit the events: events are ordered by their number, every answer that is not
stale is described by the event with its number, and equal numbers mean equal facts. -/
structure Identified (p : Publisher) (rs : List (Option TrustedTimeResult)) : Prop where
  ordered : p.published.Pairwise fun a b => b.secTimeEventSequence < a.secTimeEventSequence
  described : ∀ r, some r ∈ rs → r.errorClass ≠ "stale" → p.Describes r
  agree : ∀ r r', some r ∈ rs → some r' ∈ rs → r.errorClass ≠ "stale" → r'.errorClass ≠ "stale" →
    r.secTimeEventSequence = r'.secTimeEventSequence → SameFacts r r'

/-- In an ordered history two results that carry one number describe the same facts. -/
private theorem Publisher.Numbered.identified (hn : p.Numbered)
    {rs : List (Option TrustedTimeResult)}
    (h : ∀ r, some r ∈ rs → r.errorClass ≠ "stale" → p.Describes r) : Identified p rs where
  ordered := hn.ordered
  described := h
  agree := fun r r' hr hr' hfresh hfresh' hseq =>
    hn.sameFacts_of_describes (h r hr hfresh) (h r' hr' hfresh') hseq

/-- **The sequence number identifies the facts** in every run of the monitor whose `get` calls read
a settled cache, and in every run of the development source. Events are ordered by their number, an
answer that is not stale is described by the event with its number, and two answers of one number
show the same facts. -/
theorem sequence_identifies (S : Setup) (boot : ℕ) (acts : List Act) (leaseMax : ℤ)
    (fakeActs : List FakeAct)
    (h : (monitor S).Along (fun m a => a.Settled S m) (.new boot) acts) :
    Identified ((monitor S).run (.new boot) acts).events
        ((monitor S).replies (.new boot) acts) ∧
      Identified ((fakeSource leaseMax).run {} fakeActs).events
        ((fakeSource leaseMax).replies {} fakeActs) := by
  have htraced : Traced ((monitor S).replies (.new boot) acts)
      ((monitor S).run (.new boot) acts) := by
    refine (monitor S).run_replies (I := Traced) ?_ (fun rs m a hrs ha => traced_step hrs ha) h
    refine ⟨Publisher.numbered_empty, fun r hr => ?_, fun r hr => ?_⟩
    · cases hr
    · cases hr
  have hfake : FakeTraced ((fakeSource leaseMax).replies {} fakeActs)
      ((fakeSource leaseMax).run {} fakeActs) := by
    refine (fakeSource leaseMax).run_replies (I := FakeTraced) ?_
      (fun rs s a hrs _ => fakeTraced_step hrs a)
      ((fakeSource leaseMax).along_true _ fakeActs)
    refine ⟨Publisher.numbered_empty, fun r hr => ?_⟩
    cases hr
  exact ⟨htraced.numbered.identified htraced.answered, hfake.numbered.identified hfake.answered⟩

instance (S : Setup) (m : Monitor) (e : Env) : Decidable (m.Settled S e) :=
  match h : m.cached with
  | some r =>
    decidable_of_iff
      (r.secTimeEventSequence = m.events.sequence ∧
        (r.granted = true →
          max 0 (m.boot + e.beforeReply - m.lastRefreshBootMs) < r.remainingValidityMs))
      (by simp only [Monitor.Settled, h])
  | none =>
    decidable_of_iff
      (m.events.changes (m.refreshed S e) = false ∧
        ((m.refreshed S e).granted = true →
          e.beforeQuery + e.beforeReceive + e.beforeGate + e.beforeReply <
            (m.refreshed S e).remainingValidityMs))
      (by simp only [Monitor.Settled, h])

/-- Two refreshes find the same facts; the second one stamps the number of the event. -/
def Bench.settledRun : List Act :=
  [.start, .loopPass up, .loopPass { up with beforeLoop := 1000 }, .get 0 {}]

open Bench in
/-- A reading after the second refresh is described by the event. -/
theorem sequence_identifies_settled :
    some 1 ∈ ((monitor setup).replies (.new 1000000) settledRun).map
        (Option.map (·.secTimeEventSequence)) ∧
      Identified ((monitor setup).run (.new 1000000) settledRun).events
        ((monitor setup).replies (.new 1000000) settledRun) := by
  have hread : ((monitor setup).run (.new 1000000) (settledRun.take 3)).Settled setup {} := by
    decide +kernel
  refine ⟨by decide +kernel, ?_⟩
  exact (sequence_identifies setup 1000000 settledRun 0 []
    ⟨trivial, trivial, trivial, .inr hread, trivial⟩).1

/-- The third refresh finds the TIME service silent. -/
def Bench.sharedRun : List Act :=
  settledRun ++ [.loopPass { beforeLoop := 1000 }, .get 0 {}]

open Bench in
/-- **A trusted and an untrusted reading share the number** of the first event. -/
theorem sequence_shared :
    ¬ Identified ((monitor setup).run (.new 1000000) sharedRun).events
      ((monitor setup).replies (.new 1000000) sharedRun) := by
  intro h
  have hshared : ¬ ∀ r ∈ ((monitor setup).replies (.new 1000000) sharedRun).reduceOption,
      ∀ r' ∈ ((monitor setup).replies (.new 1000000) sharedRun).reduceOption,
        r.errorClass ≠ "stale" → r'.errorClass ≠ "stale" →
        r.secTimeEventSequence = r'.secTimeEventSequence → SameFacts r r' := by
    decide +kernel
  refine hshared fun r hr r' hr' => ?_
  exact h.agree r r' (List.reduceOption_mem_iff.mp hr) (List.reduceOption_mem_iff.mp hr')

/-! ### Delivery -/

namespace Publisher

variable {o : Option TrustedTimeResult} {p' p₀ : Publisher} {slot : ℕ}

/-- The slot was given out and its handle is gone. -/
structure Lost (p : Publisher) (slot : ℕ) : Prop where
  given : slot < p.nextSlot
  gone : slot ∉ p.handles

/-- Nothing offered differs from the last event. -/
def Unchanged (p : Publisher) (o : Option TrustedTimeResult) : Prop :=
  ∀ r, o = some r → p.changes r = false

/-- From `p₀` to `p`, the callback of the slot was called once for each new number, in increasing
order, with the event of that number. -/
def Delivered (slot : ℕ) (p₀ p : Publisher) : Prop :=
  ∃ new, p.published = new ++ p₀.published ∧
    p.deliveredTo slot = new ++ p₀.deliveredTo slot ∧
    new.map (·.secTimeEventSequence) =
      (List.range' (p₀.sequence + 1) (p.sequence - p₀.sequence)).reverse

/-- To a callback that was never called, only nothing was delivered. -/
private theorem Delivered.published_eq (h : Delivered slot p₀ p) (hnone : p.deliveredTo slot = []) :
    p.published = p₀.published := by
  obtain ⟨new, hpub, hdel, -⟩ := h
  rw [hnone] at hdel
  rw [hpub, (List.append_eq_nil_iff.mp hdel.symm).1, List.nil_append]

/-- A slot that is lost stays lost: handles are not issued twice. -/
theorem Next.lost (h : p.Next o p') (hlost : p.Lost slot) : p'.Lost slot := by
  cases h with
  | offered =>
    cases o with
    | none => exact hlost
    | some r =>
      change (p.publishIfChanged r).Lost slot
      unfold publishIfChanged
      split
      · exact ⟨hlost.given, hlost.gone⟩
      · exact hlost
  | subscribed h =>
    refine ⟨Nat.lt_succ_of_lt hlost.given, fun hmem => ?_⟩
    rcases List.mem_cons.mp hmem with rfl | hmem
    · exact lt_irrefl _ hlost.given
    · exact hlost.gone hmem
  | released h other => exact ⟨hlost.given, fun hmem => hlost.gone (List.mem_of_mem_filter hmem)⟩
  | cleared h => exact ⟨hlost.given, hlost.gone⟩

/-- A lost slot is not called. -/
private theorem deliveredTo_publish (hlost : p.Lost slot) (r : TrustedTimeResult) :
    (p.publish r).deliveredTo slot = p.deliveredTo slot := by
  have hdead : ∀ s ∈ p.live, s ≠ slot := by
    rintro s hs rfl
    have hheld := (List.mem_filter.mp hs).2
    exact hlost.gone (List.contains_iff_mem.mp hheld)
  unfold publish deliveredTo
  rw [List.filter_append, List.filter_eq_nil_iff.mpr, List.nil_append]
  intro call hcall
  obtain ⟨s, hs, rfl⟩ := List.mem_map.mp (List.mem_reverse.mp hcall)
  simpa using hdead s hs

/-- A lost slot is delivered nothing. -/
theorem Next.deliveredTo (h : p.Next o p') (hlost : p.Lost slot) :
    p'.deliveredTo slot = p.deliveredTo slot := by
  cases h with
  | offered =>
    cases o with
    | none => rfl
    | some r =>
      change (p.publishIfChanged r).deliveredTo slot = _
      unfold publishIfChanged
      split
      · exact deliveredTo_publish hlost r
      · rfl
  | subscribed h => rfl
  | released h other => rfl
  | cleared h => rfl

/-- The number grows with a change and only then. -/
theorem Next.sequence (h : p.Next o p') :
    (p.Unchanged o ∧ p'.sequence = p.sequence ∧ p'.published = p.published) ∨
      (¬ p.Unchanged o ∧ p.sequence < p'.sequence) := by
  cases o with
  | none =>
    obtain ⟨hseq, hpub⟩ := h.of_none
    exact .inl ⟨fun r hr => (by cases hr), hseq, hpub⟩
  | some r =>
    obtain rfl := h.of_some
    unfold publishIfChanged
    cases hchanges : p.changes r with
    | false =>
      refine .inl ⟨fun r' hr' => ?_, rfl, rfl⟩
      obtain rfl := Option.some.inj hr'
      exact hchanges
    | true =>
      refine .inr ⟨fun hsame => ?_, Nat.lt_succ_self _⟩
      rw [hsame r rfl] at hchanges
      cases hchanges

end Publisher

section Runs

variable {σ ℓ ρ : Type} {M : Machine σ ℓ ρ} {events : σ → Publisher}
  {offer : σ → ℓ → Option TrustedTimeResult} {slot : ℕ}

/-- Along a run, a lost slot stays lost and is never called. -/
private theorem lost_run (hnext : ∀ s l, (events s).Next (offer s l) (events (M.step s l).1))
    {s : σ}
    (hlost : (events s).Lost slot) (ls : List ℓ) :
    (events (M.run s ls)).Lost slot ∧
      (events (M.run s ls)).deliveredTo slot = (events s).deliveredTo slot := by
  induction ls generalizing s with
  | nil => exact ⟨hlost, rfl⟩
  | cons l ls ih =>
    obtain ⟨hlost', hsame⟩ := ih ((hnext s l).lost hlost)
    exact ⟨hlost', hsame.trans ((hnext s l).deliveredTo hlost)⟩

/-- The number of the last event never goes back in a run. -/
private theorem sequence_run (hnext : ∀ s l, (events s).Next (offer s l) (events (M.step s l).1))
    (s : σ)
    (ls : List ℓ) : (events s).sequence ≤ (events (M.run s ls)).sequence := by
  induction ls generalizing s with
  | nil => exact le_rfl
  | cons l ls ih =>
    rcases (hnext s l).sequence with ⟨-, hseq, -⟩ | ⟨-, hseq⟩
    · exact hseq.ge.trans (ih _)
    · exact hseq.le.trans (ih _)

/-- The number stays the same over a run exactly if no step changes a fact. -/
private theorem sequence_run_eq_iff
    (hnext : ∀ s l, (events s).Next (offer s l) (events (M.step s l).1)) (s : σ) (ls : List ℓ) :
    (events (M.run s ls)).sequence = (events s).sequence ↔
      M.Along (fun s l => (events s).Unchanged (offer s l)) s ls := by
  induction ls generalizing s with
  | nil => exact ⟨fun _ => trivial, fun _ => rfl⟩
  | cons l ls ih =>
    have hle := sequence_run hnext (M.step s l).1 ls
    rw [Machine.run_cons]
    rcases (hnext s l).sequence with ⟨hsame, hseq, -⟩ | ⟨hchanged, hseq⟩
    · rw [← hseq, ih]
      exact ⟨fun h => ⟨hsame, h⟩, fun h => h.2⟩
    · refine ⟨fun h => ?_, fun h => absurd h.1 hchanged⟩
      omega

/-- A run in which no offer is a change publishes nothing. -/
private theorem published_run (hnext : ∀ s l, (events s).Next (offer s l) (events (M.step s l).1))
    {s : σ}
    {ls : List ℓ} (h : M.Along (fun s l => (events s).Unchanged (offer s l)) s ls) :
    (events (M.run s ls)).published = (events s).published := by
  induction ls generalizing s with
  | nil => rfl
  | cons l ls ih =>
    rw [Machine.run_cons, ih h.2]
    rcases (hnext s l).sequence with ⟨-, -, hpub⟩ | ⟨hchanged, -⟩
    · exact hpub
    · exact absurd h.1 hchanged

/-- **A lost slot is given every event** exactly of the runs without one. -/
theorem delivered_run_iff (hnext : ∀ s l, (events s).Next (offer s l) (events (M.step s l).1))
    {s : σ} (hlost : (events s).Lost slot) (ls : List ℓ) :
    Publisher.Delivered slot (events s) (events (M.run s ls)) ↔
      M.Along (fun s l => (events s).Unchanged (offer s l)) s ls := by
  have hsame := (lost_run hnext hlost ls).2
  constructor
  · rintro ⟨new, -, hnew, hnumbers⟩
    -- nothing was delivered, so there is no new number
    rw [hsame] at hnew
    have hnil : new = [] := by simpa using hnew
    have hlength := congrArg List.length hnumbers
    simp only [hnil, List.map_nil, List.length_nil, List.length_reverse,
      List.length_range'] at hlength
    have hle := sequence_run hnext s ls
    exact (sequence_run_eq_iff hnext s ls).mp (by omega)
  · intro h
    refine ⟨[], published_run hnext h, hsame, ?_⟩
    rw [(sequence_run_eq_iff hnext s ls).mpr h]
    simp

end Runs

/-- `SecApplication` subscribes and does not keep the handle. -/
def wiring : List Act := [.subscribe, .release 0]

/-- The same on the development source. -/
def fakeWiring : List FakeAct := [.subscribe, .release 0]

/-- The slot of the application is lost at once, because its handle is released where it was made.
-/
private theorem lost_wired :
    ((({} : Publisher).subscribe).release 0).Lost 0 := ⟨by decide, by decide⟩

/-- **Only of the runs without an event does every event reach the IPC server.** Under the wiring
of the application, whatever happens before `start` and after it, the server's callback is called
once for each event exactly if no step changes a fact. -/
theorem delivered_iff_unchanged (S : Setup) (boot : ℕ) (early later : List Act) (leaseMax : ℤ)
    (fakeEarly fakeLater : List FakeAct) (fakeBoot : ℕ) (sample : Option TrustedTimeSample) :
    (Publisher.Delivered 0 ((monitor S).run (.new boot) (wiring ++ early)).events
        ((monitor S).run ((monitor S).run (.new boot) (wiring ++ early)) (.start :: later)).events ↔
      (monitor S).Along (fun m a => m.events.Unchanged (m.offer S a))
        ((monitor S).run (.new boot) (wiring ++ early)) (.start :: later)) ∧
    (Publisher.Delivered 0 ((fakeSource leaseMax).run {} (fakeWiring ++ fakeEarly)).events
        ((fakeSource leaseMax).run ((fakeSource leaseMax).run {} (fakeWiring ++ fakeEarly))
          (.start fakeBoot sample :: fakeLater)).events ↔
      (fakeSource leaseMax).Along (fun s a => s.events.Unchanged (s.offer leaseMax a))
        ((fakeSource leaseMax).run {} (fakeWiring ++ fakeEarly))
        (.start fakeBoot sample :: fakeLater)) := by
  constructor
  · have hlost : ((monitor S).run (.new boot) wiring).events.Lost 0 := lost_wired
    rw [Machine.run_append]
    exact delivered_run_iff (events_step S) (lost_run (events_step S) hlost early).1 _
  · have hlost : ((fakeSource leaseMax).run {} fakeWiring).events.Lost 0 := lost_wired
    rw [Machine.run_append]
    exact delivered_run_iff (events_fakeStep leaseMax)
      (lost_run (events_fakeStep leaseMax) hlost fakeEarly).1 _

open Bench in
/-- **The first refresh of the monitor and the first frame of the development source are published
and not delivered.** -/
theorem first_event_not_delivered :
    ¬ Publisher.Delivered 0 ((monitor setup).run (.new 1000000) wiring).events
        ((monitor setup).run ((monitor setup).run (.new 1000000) wiring)
          [.start, .loopPass up]).events ∧
      ¬ Publisher.Delivered 0 ((fakeSource 1000).run {} fakeWiring).events
        ((fakeSource 1000).run ((fakeSource 1000).run {} fakeWiring)
          [.start 1000000 none]).events := by
  constructor
  · intro h
    have hpub := h.published_eq (by decide +kernel)
    exact absurd hpub (by decide +kernel)
  · intro h
    have hpub := h.published_eq (by decide +kernel)
    exact absurd hpub (by decide +kernel)

end TboxSec.Time
