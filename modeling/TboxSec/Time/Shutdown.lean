import TboxSec.Time.Events

/-!
# After `stop`

`stop` is to refuse new authorisation, revoke the cache and invalidate the query tokens. From its
locked section until the next `start` the monitor is **halting**: it does not run and refuses
every token but `0`. A `get` with token `0` is still answered, and as the cache is gone it
refreshes; so nothing is trusted as long as no such refresh finds a trusted source.

* `Control` is the part of the monitor that decides about tokens, and `control_step` says how the
  three parts of `stop`, which other steps may interleave, move it.
* `Revoked` is what a halting monitor holds, and `revoked_step` that it keeps it.
* `stopped_not_trusted` is the result over runs, and `stopped_trusted` a run in which the
  condition fails and a stopped monitor answers with a trusted time.
-/

namespace TboxSec.Time

variable {S : Setup} {m : Monitor} {r : TrustedTimeResult}

/-! ### The control fields -/

/-- The fields that `start` and `stop` set. -/
structure Control where
  running : Bool
  tokensInvalidated : Bool
  stopping : StopStage
  stopped : Bool
  deriving DecidableEq

/-- The control fields of a monitor. -/
def Monitor.control (m : Monitor) : Control :=
  ⟨m.running, m.tokensInvalidated, m.stopping, m.stopped⟩

/-- `stop` is under way or has returned, and `start` was not called since. -/
def Control.Halting (c : Control) : Prop := c.stopping ≠ .idle ∨ c.stopped = true

/-- A halting monitor does not run and has invalidated its tokens. -/
def Control.Sound (c : Control) : Prop :=
  c.Halting → c.running = false ∧ c.tokensInvalidated = true

private theorem control_manageConnection (e : Env) (now : ℤ) :
    (m.manageConnection S e now).control = m.control := by
  obtain ⟨_, _, _, _, hframe⟩ := m.manageConnection_frame (S := S) e now
  rw [hframe]
  rfl

private theorem control_manageCache (e : Env) (now : ℤ) :
    (m.manageCache S e now).control = m.control := by
  rcases m.manageCache_cases (S := S) e now with ⟨_, heq⟩ | ⟨r, -, heq⟩ | heq
  · rw [heq]
    rfl
  · rw [heq]
    rfl
  · rw [heq]

private theorem control_loopPass (e : Env) : (m.loopPass S e).control = m.control := by
  unfold Monitor.loopPass
  split
  · rfl
  · exact (control_manageCache e _).trans (control_manageConnection e _)

private theorem control_get (token : ℕ) (e : Env) : (m.get S token e).1.control = m.control := by
  unfold Monitor.get Monitor.beforeReading
  split
  · rfl
  · cases m.cached <;> rfl

private theorem control_start :
    m.start.control = m.control ∨ ¬ m.start.control.Halting := by
  rcases m.start_cases with heq | ⟨hidle, heq⟩
  · exact .inl (by rw [heq])
  · refine .inr fun h => ?_
    rw [heq] at h
    rcases h with h | h
    · exact h hidle
    · cases h

/-- A monitor with a call of `stop` under way is halting. -/
private theorem halting_of_stage (h : m.stopping ≠ .idle) : m.control.Halting := .inl h

/-- **Every step keeps a halting monitor down.** -/
theorem control_step (h : m.control.Sound) (a : Act) : ((monitor S).step m a).1.control.Sound := by
  change (m.step S a).1.control.Sound
  cases a with
  | start =>
    change m.start.control.Sound
    rcases control_start (m := m) with hsame | hgoing
    · rw [hsame]
      exact h
    · exact fun hhalting => absurd hhalting hgoing
  | stopLocked =>
    change m.stopLocked.control.Sound
    rcases m.stopLocked_cases with ⟨-, heq⟩ | heq
    · rw [heq]
      exact h
    · rw [heq]
      exact fun _ => ⟨rfl, rfl⟩
  | stopJoin =>
    change m.stopJoin.control.Sound
    rcases m.stopJoin_cases with heq | ⟨hstage, heq⟩
    · rw [heq]
      exact h
    · rw [heq]
      exact fun _ => h (halting_of_stage (by rw [hstage]; decide))
  | stopDisconnect =>
    change (m.stopDisconnect S).control.Sound
    rcases m.stopDisconnect_cases (S := S) with heq | ⟨hstage, heq⟩
    · rw [heq]
      exact h
    · rw [heq]
      exact fun _ => h (halting_of_stage (by rw [hstage]; decide))
  | loopPass e =>
    change (m.loopPass S e).control.Sound
    rw [control_loopPass]
    exact h
  | get token e =>
    change (m.get S token e).1.control.Sound
    rw [control_get]
    exact h
  | refreshNow => exact h
  | providerNow e => exact h
  | linkLost => exact h
  | tick ms => exact h
  | subscribe => exact h
  | release slot => exact h

/-! ### The cache of a halting monitor -/

/-- A refresh by `get` while the monitor is halting finds no trusted source. -/
def Act.Denied (S : Setup) (m : Monitor) : Act → Prop
  | .get token e =>
    m.control.Halting → m.refusesToken token = false → m.cached = none →
      (m.queryComposite S e (m.boot + e.beforeRefresh)).1.granted = false
  | _ => True

/-- The control fields are sound, and a halting monitor has nothing trusted in its cache. -/
structure Revoked (m : Monitor) : Prop where
  control : m.control.Sound
  cache : m.control.Halting → ∀ r, m.cached = some r → r.granted = false

private theorem granted_refreshed {e : Env}
    (h : (m.queryComposite S e (m.boot + e.beforeRefresh)).1.granted = false) :
    (m.refreshed S e).granted = false := by
  have hstamp : (m.stamp (m.queryComposite S e (m.boot + e.beforeRefresh)).1).granted = false := h
  unfold Monitor.refreshed Monitor.dropEmptyLease
  rw [if_neg (by simp [hstamp])]
  exact hstamp

/-- Only the locked section of `stop` makes a monitor halting, and it empties the cache. -/
private theorem halting_step (a : Act) (h : ((monitor S).step m a).1.control.Halting) :
    m.control.Halting ∨ ((monitor S).step m a).1.cached = none := by
  change (m.step S a).1.control.Halting at h
  change _ ∨ (m.step S a).1.cached = none
  cases a with
  | start =>
    rcases control_start (m := m) with hsame | hgoing
    · exact .inl (hsame ▸ h)
    · exact absurd h hgoing
  | stopLocked =>
    change _ ∨ m.stopLocked.cached = none
    rcases m.stopLocked_cases with ⟨hstage, -⟩ | heq
    · exact .inl (halting_of_stage hstage)
    · exact .inr (by rw [heq])
  | stopJoin =>
    refine .inl ?_
    change m.stopJoin.control.Halting at h
    rcases m.stopJoin_cases with heq | ⟨hstage, -⟩
    · rwa [heq] at h
    · exact halting_of_stage (by rw [hstage]; decide)
  | stopDisconnect =>
    refine .inl ?_
    change (m.stopDisconnect S).control.Halting at h
    rcases m.stopDisconnect_cases (S := S) with heq | ⟨hstage, -⟩
    · rwa [heq] at h
    · exact halting_of_stage (by rw [hstage]; decide)
  | loopPass e => exact .inl (control_loopPass (S := S) e ▸ h)
  | get token e => exact .inl (control_get (S := S) token e ▸ h)
  | refreshNow => exact .inl h
  | providerNow e => exact .inl h
  | linkLost => exact .inl h
  | tick ms => exact .inl h
  | subscribe => exact .inl h
  | release slot => exact .inl h

/-- **Every denied step leaves nothing trusted** in the cache of a halting monitor. -/
theorem revoked_step (h : Revoked m) {a : Act} (ha : a.Denied S m) :
    Revoked ((monitor S).step m a).1 := by
  refine ⟨control_step h.control a, fun hhalting r hr => ?_⟩
  rcases halting_step a hhalting with hbefore | hempty
  swap
  · rw [hempty] at hr
    cases hr
  rcases cached_step S m a with ⟨r', ho, hcached, -⟩ | ⟨-, hcached | hcached⟩
  · rw [hcached] at hr
    obtain rfl := Option.some.inj hr
    -- a halting monitor does not run, so only a `get` that refreshes offers anything
    cases a with
    | get token e =>
      simp only [Monitor.offer] at ho
      split at ho
      · cases ho
      · rename_i hopen
        obtain ⟨hfresh, hnone⟩ : m.refusesToken token = false ∧ m.cached = none := by
          simpa using hopen
        obtain rfl := Option.some.inj ho
        exact granted_refreshed (ha hbefore hfresh hnone)
    | loopPass e =>
      have hdown : m.running = false := (h.control hbefore).1
      simp [Monitor.offer, hdown] at ho
    | _ => cases ho
  · rw [hcached] at hr
    exact h.cache hbefore r hr
  · rw [hcached] at hr
    cases hr

/-! ### No authorisation after `stop` -/

private theorem granted_shown (h : r.granted = false) : (m.shown r).granted = false := by
  unfold Monitor.shown
  rw [if_neg (by simp [h])]
  exact h

private theorem sound_run (S : Setup) (boot : ℕ) (past : List Act) :
    ((monitor S).run (.new boot) past).control.Sound := by
  refine (monitor S).run_invariant (c := fun _ _ => True) (I := fun m => m.control.Sound)
    (fun _ a h _ => control_step h a) ?_ ((monitor S).along_true _ past)
  intro hhalting
  rcases hhalting with h | h
  · exact absurd rfl h
  · cases h

/-- **Stopped means no authorisation.** Once `stop` has returned and until the next `start`, every
token but `0` is stale; and a `get` with any token is not trusted, if no refresh by a `get` since
the locked section of `stop` finds a trusted source. -/
theorem stopped_not_trusted (S : Setup) (boot : ℕ) (past : List Act) (token : ℕ) (e : Env)
    (hstopped : ((monitor S).run (.new boot) past).stopped = true) :
    (token ≠ 0 → (((monitor S).run (.new boot) past).get S token e).2.errorClass = "stale") ∧
      ((monitor S).Along (fun m a => a.Denied S m) (.new boot) (past ++ [.get token e]) →
        (((monitor S).run (.new boot) past).get S token e).2.granted = false) := by
  have hhalting : ((monitor S).run (.new boot) past).control.Halting := .inr hstopped
  have hsound := sound_run S boot past
  constructor
  · intro htoken
    have hinvalid : ((monitor S).run (.new boot) past).tokensInvalidated = true :=
      (hsound hhalting).2
    rw [Monitor.get, if_pos (by simp [Monitor.refusesToken, htoken, hinvalid])]
    rfl
  · intro halong
    -- every step so far was denied, so the cache holds nothing trusted
    have hrevoked : Revoked ((monitor S).run (.new boot) past) := by
      rw [Machine.along_append] at halong
      refine (monitor S).run_invariant (I := Revoked) (fun m a h ha => revoked_step h ha) ?_
        halong.1
      refine ⟨sound_run S boot [], fun _ r hr => ?_⟩
      cases hr
    have hlast := ((Machine.along_append ..).mp halong).2.1
    -- and the last `get` leaves it so, even if it refreshes
    have hafter : Revoked (((monitor S).run (.new boot) past).get S token e).1 :=
      revoked_step hrevoked hlast
    cases hrefused : ((monitor S).run (.new boot) past).refusesToken token with
    | true =>
      rw [Monitor.get, if_pos hrefused]
      rfl
    | false =>
      rw [Monitor.get, if_neg (by simp [hrefused])] at hafter ⊢
      refine granted_shown ?_
      cases hcached : (((monitor S).run (.new boot) past).beforeReading S e).cached with
      | none => rfl
      | some r =>
        refine hafter.cache ?_ r hcached
        rw [← control_get (S := S) token e, Monitor.get, if_neg (by simp [hrefused])] at hhalting
        exact hhalting

/-- A monitor that was trusted and is stopped. -/
def Bench.stoppedRun : List Act :=
  [.start, .loopPass up, .stopLocked, .stopJoin, .stopDisconnect]

open Bench in
/-- With the platform disconnected and no hardware clock, the stopped monitor is not trusted, and
refuses its own token. -/
theorem stopped_not_trusted_disconnected :
    ((monitor setup).run (.new 1000000) stoppedRun).stopped = true ∧
      (((monitor setup).run (.new 1000000) stoppedRun).get setup 1000001 {}).2.errorClass =
        "stale" ∧
      (((monitor setup).run (.new 1000000) stoppedRun).get setup 0 {}).2.granted = false := by
  have hstopped : ((monitor setup).run (.new 1000000) stoppedRun).stopped = true := by
    decide +kernel
  refine ⟨hstopped, ?_, ?_⟩
  · exact (stopped_not_trusted setup 1000000 stoppedRun 1000001 {} hstopped).1 (by decide)
  · refine (stopped_not_trusted setup 1000000 stoppedRun 0 {} hstopped).2 ?_
    exact ⟨trivial, trivial, trivial, trivial, trivial, fun _ _ _ => by decide +kernel, trivial⟩

open Bench in
/-- **A reading inside `stop` is trusted after it.** A `get` with token `0` between the locked
section of `stop` and the disconnection asks the platform and caches its grant. -/
theorem stopped_trusted :
    ((monitor setup).run (.new 1000000)
        [.start, .loopPass up, .stopLocked, .get 0 up, .stopJoin, .stopDisconnect]).stopped = true ∧
      (((monitor setup).run (.new 1000000)
        [.start, .loopPass up, .stopLocked, .get 0 up, .stopJoin, .stopDisconnect]).get setup 0
          {}).2.granted = true := by
  decide +kernel

end TboxSec.Time
