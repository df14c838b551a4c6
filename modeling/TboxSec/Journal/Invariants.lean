import TboxSec.Journal.Protocol

/-!
# Invariants of the journalled batch protocol

`Inv` holds of every store, under every policy: memory and disk agree on the active batch, and
along the writes the generation and every key's version **only grow**. It is proved for one
step (`inv_step`) and then for any number of steps (`inv_steps`).

What a step does to the documents is said once, in `Step.log_cases`, `Step.current_cases` and
`Step.docs_cases`, with `Sets` for a record that a step sets and `Commits` for a commit.

* `DocInv` is the invariant of one document, `Inv` that of a store with its writes and its memory.
* `Advances` compares two documents: they have one batch, or the generation and every version have
  grown.
* `Inv.current_load`: a process that loads the last document starts where the last one was saved.
* `Steps.log_suffix`: writes are never taken back.
-/

namespace TboxSec.Journal

open Relation

universe u v w z

variable {ρ : Type z} {E : Type u} {κ : Type v} {ι : Type w}
variable {S : Scheme E κ ι} {π : Policy ρ E κ ι} {s s' : Sys ρ E κ ι}

/-! ### Documents and their order -/

variable (S) in
/-- A sound document. -/
structure DocInv (m : Doc ρ E κ ι) : Prop where
  blank : m.gen = 0 → m.active = fun _ => none
  shaped : 0 < m.gen → S.Shaped m.active
  ver : ∀ k i, m.active k = some i → m.gen ≤ S.ver i ∧ S.ver i < S.top
  entry : ∀ r e, m.entry r = some e →
    S.Shaped (S.batch e) ∧ S.Bounded (S.batch e) ∧ S.gen e ≤ m.gen + 1

variable (S) in
/-- From an older document to a newer one: the active batch is the same, or the generation
and every version have grown. -/
def Advances (new old : Doc ρ E κ ι) : Prop :=
  (new.gen = old.gen ∧ new.active = old.active) ∨
    (old.gen < new.gen ∧ S.Newer new.active old.active)

private theorem docInv_blank : DocInv S (Doc.blank : Doc ρ E κ ι) where
  blank _ := rfl
  shaped h := absurd h (lt_irrefl 0)
  ver k i h := by cases h
  entry r e h := by cases h

/-- A batch that is newer than the active one keeps its distance to older documents too. -/
private theorem newer_of_advances {m D : Doc ρ E κ ι} (hm : DocInv S m) (h : Advances S m D)
    {b : κ → Option ι} (hb : S.Shaped b) (hn : S.Newer b m.active) :
    S.Newer b D.active := by
  rcases h with ⟨-, hact⟩ | ⟨hgen, hnew⟩
  · rwa [← hact]
  · intro k i j hi hj
    have hkey : S.keys k := (hb k).mp (by simp [hi])
    obtain ⟨l, hl⟩ := Option.isSome_iff_exists.mp ((hm.shaped (by omega) k).mpr hkey)
    exact (hnew k l j hl hj).trans (hn k i l hi hl)

/-- **The commit step of a sound document.** -/
theorem DocInv.commit {m : Doc ρ E κ ι} (h : DocInv S m) {r : ρ} {e : E}
    (he : m.entry r = some e) (hg : S.gen e = m.gen + 1) (hn : S.Newer (S.batch e) m.active) :
    DocInv S { m with gen := S.gen e, active := S.batch e } where
  blank h0 := by
    change S.gen e = 0 at h0
    omega
  shaped _ := (h.entry r e he).1
  ver := by
    intro k i hi
    obtain ⟨hshape, hbound, -⟩ := h.entry r e he
    obtain ⟨hpos, htop⟩ := hbound k i hi
    refine ⟨?_, htop⟩
    change S.gen e ≤ S.ver i
    -- the first batch has generation one; a later one is newer than a batch that is sound
    rcases Nat.eq_zero_or_pos m.gen with h0 | h0
    · omega
    · have hkey : S.keys k := (hshape k).mp (by rw [show S.batch e k = some i from hi]; rfl)
      obtain ⟨j, hj⟩ := Option.isSome_iff_exists.mp ((h.shaped h0 k).mpr hkey)
      have hij := hn k i j hi hj
      have hgj := (h.ver k j hj).1
      omega
  entry := by
    intro x e' hx
    obtain ⟨h₁, h₂, h₃⟩ := h.entry x e' hx
    refine ⟨h₁, h₂, ?_⟩
    change S.gen e' ≤ S.gen e + 1
    omega

/-! ### The basic invariant -/

variable (S) in
/-- What holds of every store. -/
structure Inv (s : Sys ρ E κ ι) : Prop where
  sync : s.loaded = true → s.mem.gen = s.latest.gen ∧ s.mem.active = s.latest.active
  unloaded : s.loaded = false → s.mem = .blank ∧ s.busy = none
  docs : ∀ m ∈ s.mem :: s.log, DocInv S m
  busy : ∀ r e, s.busy = some r → s.mem.entry r = some e → S.status e = .pending →
    S.gen e = s.mem.gen + 1 → S.Newer (S.batch e) s.mem.active
  order : s.log.Pairwise (Advances S)
  unposted : s.latest.gen = 0 → s.posted = some fun _ => none

theorem inv_fresh : Inv S (Sys.fresh : Sys ρ E κ ι) where
  sync h := by cases h
  unloaded _ := ⟨rfl, rfl⟩
  docs m hm := by
    rw [List.mem_singleton.mp hm]
    exact docInv_blank
  busy r e h := by cases h
  order := List.Pairwise.nil
  unposted _ := rfl

namespace Inv

variable (h : Inv S s)

include h

theorem mem : DocInv S s.mem := h.docs _ (List.mem_cons_self ..)

/-- The document in memory is ahead of every document written. -/
theorem mem_advances (hl : s.loaded = true) : ∀ D ∈ s.log, Advances S s.mem D := by
  intro D hD
  obtain ⟨hgen, hact⟩ := h.sync hl
  have horder := h.order
  unfold Sys.latest at hgen hact
  cases hlog : s.log with
  | nil => rw [hlog] at hD; cases hD
  | cons D₀ rest =>
    rw [hlog] at hD hgen hact horder
    rcases List.mem_cons.mp hD with rfl | hD
    · exact .inl ⟨hgen, hact⟩
    · rcases List.rel_of_pairwise_cons horder hD with ⟨h₁, h₂⟩ | ⟨h₁, h₂⟩
      · exact .inl ⟨hgen.trans h₁, hact.trans h₂⟩
      · refine .inr ⟨?_, ?_⟩
        · rw [hgen]; exact h₁
        · rw [hact]; exact h₂

/-- A write of the document in memory. -/
theorem flush (hl : s.loaded = true) : Inv S s.flush where
  sync _ := ⟨rfl, rfl⟩
  unloaded hl' := absurd (hl.symm.trans hl') (by simp)
  docs m hm := by
    rcases List.mem_cons.mp hm with rfl | hm
    · exact h.mem
    · exact h.docs m hm
  busy := h.busy
  order := List.pairwise_cons.mpr ⟨h.mem_advances hl, h.order⟩
  unposted h0 := h.unposted ((h.sync hl).1.symm.trans h0)

/-- The posting of a settled batch, once some batch is active. -/
private theorem setPosted (hpos : 0 < s.latest.gen) (p : Option (κ → Option ι)) :
    Inv S { s with posted := p } where
  sync := h.sync
  unloaded := h.unloaded
  docs := h.docs
  busy := h.busy
  order := h.order
  unposted h0 := by
    change s.latest.gen = 0 at h0
    omega

/-- The commit of the record being worked on. -/
theorem commit {r : ρ} {e : E} (hl : s.loaded = true) (hb : s.busy = some r)
    (he : s.mem.entry r = some e)
    (hp : S.status e = .pending) (hg : S.gen e = s.mem.gen + 1) :
    Inv S (s.withMem { s.mem with gen := S.gen e, active := S.batch e }).flush := by
  have hn := h.busy r e hb he hp hg
  have hdoc := h.mem.commit he hg hn
  refine ⟨fun _ => ⟨rfl, rfl⟩, fun hl' => absurd (hl.symm.trans hl') (by simp), ?_, ?_, ?_, ?_⟩
  · intro m hm
    rcases List.mem_cons.mp hm with rfl | hm
    · exact hdoc
    · rcases List.mem_cons.mp hm with rfl | hm
      · exact hdoc
      · exact h.docs m (List.mem_cons_of_mem _ hm)
  · -- the record just committed does not have the next generation any more
    intro x e' hx he' _ hg'
    have hxr : x = r := Option.some.inj (hx.symm.trans hb)
    subst hxr
    have hee : e' = e := Option.some.inj (he'.symm.trans he)
    subst hee
    change S.gen e' = S.gen e' + 1 at hg'
    omega
  · -- the document written is ahead of all others, because the memory was
    refine List.pairwise_cons.mpr ⟨fun D hD => ?_, h.order⟩
    have hadv := h.mem_advances hl D hD
    refine .inr ⟨?_, ?_⟩
    · change D.gen < S.gen e
      rcases hadv with ⟨h₁, -⟩ | ⟨h₁, -⟩ <;> omega
    · exact newer_of_advances h.mem hadv (h.mem.entry r e he).1 hn
  · intro h0
    change S.gen e = 0 at h0
    omega

/-- The last document written is read back. -/
theorem load (hb : s.busy = none) : Inv S { s with mem := s.log.headD s.mem, loaded := true } := by
  have hmem : s.log.headD s.mem ∈ s.mem :: s.log := by
    cases s.log <;> simp
  have hsync : (s.log.headD s.mem).gen = s.latest.gen ∧
      (s.log.headD s.mem).active = s.latest.active := by
    unfold Sys.latest
    cases hlog : s.log with
    | cons D rest => exact ⟨rfl, rfl⟩
    | nil =>
      change s.mem.gen = 0 ∧ s.mem.active = fun _ => none
      -- nothing was written yet, so the memory is blank or in step with a blank document
      cases hl : s.loaded with
      | false =>
        rw [(h.unloaded hl).1]
        exact ⟨rfl, rfl⟩
      | true =>
        have hs := h.sync hl
        rwa [Sys.latest, hlog] at hs
  refine ⟨fun _ => hsync, fun hl => (by cases hl), ?_, ?_, h.order, h.unposted⟩
  · intro m hm
    rcases List.mem_cons.mp hm with rfl | hm
    · exact h.docs _ hmem
    · exact h.docs m (List.mem_cons_of_mem _ hm)
  · intro r e hr
    rw [show s.busy = some r from hr] at hb
    cases hb

end Inv

/-! ### The documents that count -/

/-- A document that counts: the one in memory, or the last one written. -/
def Sys.Current (s : Sys ρ E κ ι) (m : Doc ρ E κ ι) : Prop :=
  (s.loaded = true ∧ m = s.mem) ∨ m = s.latest

/-- A document that counts was written or is in memory, or nothing was ever written. -/
private theorem Sys.Current.mem_docs {m : Doc ρ E κ ι} (hm : s.Current m) :
    m ∈ s.mem :: s.log ∨ m = .blank := by
  rcases hm with ⟨-, rfl⟩ | rfl
  · exact .inl (List.mem_cons_self ..)
  · rw [Sys.latest]
    cases s.log with
    | nil => exact .inr rfl
    | cons D rest => exact .inl (by simp)

/-- Reading back the last document brings up nothing that did not count before. -/
theorem Inv.current_load (h : Inv S s) {m : Doc ρ E κ ι}
    (hm : Sys.Current { s with mem := s.log.headD s.mem, loaded := true } m) : s.Current m := by
  rcases hm with ⟨-, rfl⟩ | rfl
  · change s.Current (s.log.headD s.mem)
    cases hlog : s.log with
    | cons D rest => exact .inr (by rw [Sys.latest, hlog]; rfl)
    | nil =>
      cases hl : s.loaded with
      | true => exact .inl ⟨hl, rfl⟩
      | false =>
        refine .inr ?_
        rw [Sys.latest, hlog, (h.unloaded hl).1]
  · exact .inr rfl

/-! ### Steps -/

section Steps

variable [DecidableEq ρ]

/-- What every step preserves, any number of steps preserve. -/
theorem Steps.preserve {I : Sys ρ E κ ι → Prop}
    (hstep : ∀ s s', Step S π s s' → I s → I s') (h : Steps S π s s') (hs : I s) : I s' := by
  induction h with
  | refl => exact hs
  | tail _ hlast ih => exact hstep _ _ hlast ih

/-- A record may be set, if it is sound itself. -/
theorem DocInv.put {m : Doc ρ E κ ι} (h : DocInv S m) {r : ρ} {e : E}
    (he : S.Shaped (S.batch e) ∧ S.Bounded (S.batch e) ∧ S.gen e ≤ m.gen + 1) :
    DocInv S (m.put r e) where
  blank := h.blank
  shaped := h.shaped
  ver := h.ver
  entry := by
    intro x e' hx
    rcases Doc.put_entry_eq_some hx with ⟨-, rfl⟩ | ⟨-, hx⟩
    · exact he
    · exact h.entry x e' hx

/-- A record like a sound one is sound. -/
private theorem DocInv.put_alike {m : Doc ρ E κ ι} (h : DocInv S m) {r : ρ} {e e' : E}
    (he : m.entry r = some e) (ha : S.Alike e e') : DocInv S (m.put r e') := by
  refine h.put ?_
  rw [ha.1, ha.2]
  exact h.entry r e he

/-- A change of the journal in memory. -/
private theorem Inv.withMem_put (h : Inv S s) (hl : s.loaded = true) {r : ρ} {e : E}
    (he : DocInv S (s.mem.put r e))
    {b : Option ρ}
    (hbusy : ∀ x e', b = some x → (s.mem.put r e).entry x = some e' → S.status e' = .pending →
      S.gen e' = s.mem.gen + 1 → S.Newer (S.batch e') s.mem.active) :
    Inv S { s with mem := s.mem.put r e, busy := b } where
  sync _ := h.sync hl
  unloaded hl' := absurd (hl.symm.trans hl') (by simp)
  docs m hm := by
    rcases List.mem_cons.mp hm with rfl | hm
    · exact he
    · exact h.docs m (List.mem_cons_of_mem _ hm)
  busy := hbusy
  order := h.order
  unposted := h.unposted

/-- **Every step keeps the invariant.** -/
theorem inv_step (hstep : Step S π s s') (h : Inv S s) : Inv S s' := by
  cases hstep with
  | @start r e hl hb hp hg hs hv hn hπ =>
    refine h.withMem_put hl (h.mem.put ⟨hs, hv, hg.le⟩) ?_
    intro x e' hx he' _ _
    obtain rfl := Option.some.inj hx
    rw [Doc.put_entry_self] at he'
    rwa [← Option.some.inj he']
  | @update r e e' hl hb he hp ha hp' =>
    refine h.withMem_put hl (h.mem.put_alike he ha) ?_
    intro x e'' hx he'' _ hg'
    obtain rfl := Option.some.inj (hb.symm.trans hx)
    rw [Doc.put_entry_self] at he''
    obtain rfl := Option.some.inj he''
    rw [ha.2]
    exact h.busy r e hb he hp (by rw [← ha.1]; exact hg')
  | commit hl hb he hp hg => exact h.commit hl hb he hp hg
  | unlock =>
    exact ⟨h.sync, fun hl => ⟨(h.unloaded hl).1, rfl⟩, h.docs, fun r e hr => (by cases hr),
      h.order, h.unposted⟩
  | @fail r e e' hl hb he hp ha hf hg =>
    refine h.withMem_put hl (h.mem.put_alike he ha) ?_
    intro x e'' hx he'' hp'' hg'
    -- a settled record is not pending, so the pending one is an older record
    rcases Doc.put_entry_eq_some he'' with ⟨-, rfl⟩ | ⟨-, he''⟩
    · rw [hf] at hp''
      cases hp''
    · exact h.busy x e'' hx he'' hp'' hg'
  | @succeed r e e' written p hl hb he hp ha hs hg hpos hπ hpost =>
    have hput : Inv S (s.withMem (s.mem.put r e')) := by
      refine h.withMem_put hl (h.mem.put_alike he ha) ?_
      intro x e'' hx he'' hp'' hg'
      rcases Doc.put_entry_eq_some he'' with ⟨-, rfl⟩ | ⟨-, he''⟩
      · rw [hs] at hp''
        cases hp''
      · exact h.busy x e'' hx he'' hp'' hg'
    have hlatest : 0 < s.latest.gen := (h.sync hl).1 ▸ hpos
    cases written with
    | false => exact hput.setPosted hlatest p
    | true => exact (hput.flush hl).setPosted hpos p
  | flush hl => exact h.flush hl
  | crash =>
    refine ⟨fun hl => (by cases hl), fun _ => ⟨rfl, rfl⟩, ?_, fun r e hr => (by cases hr), h.order,
      h.unposted⟩
    intro m hm
    rcases List.mem_cons.mp hm with rfl | hm
    · exact docInv_blank
    · exact h.docs m (List.mem_cons_of_mem _ hm)
  | load hb => exact h.load hb

theorem inv_steps (hsteps : Steps S π s s') (h : Inv S s) : Inv S s' :=
  Steps.preserve (fun _ _ => inv_step) hsteps h

/-! ### What a step does to the documents -/

variable (S π) in
/-- A step from `s` sets the record of `r` to `e'`. -/
inductive Sets (s : Sys ρ E κ ι) (r : ρ) (e' : E) : Prop
  | start (hp : S.status e' = .pending) (hg : S.gen e' = s.mem.gen + 1)
      (hπ : π.start s.mem r e')
  | update {e : E} (hb : s.busy = some r) (he : s.mem.entry r = some e)
      (hp : S.status e = .pending) (ha : S.Alike e e') (hp' : S.status e' = .pending)
  | fail {e : E} (he : s.mem.entry r = some e) (hp : S.status e = .pending)
      (ha : S.Alike e e') (hf : S.status e' = .failed)
      (hg : S.gen e = s.mem.gen → 0 < s.mem.gen →
        ∃ k i, s.mem.active k = some i ∧ ¬ S.steady i)
  | succeed {e : E} (he : s.mem.entry r = some e) (hp : S.status e = .pending)
      (ha : S.Alike e e') (hs : S.status e' = .succeeded) (hg : S.gen e = s.mem.gen)
      (hpos : 0 < s.mem.gen) (hπ : π.certify r e' ∨ π.recover r e)

variable (S) in
/-- A step from `s` commits the record `e` of `r`. -/
structure Commits (s : Sys ρ E κ ι) (r : ρ) (e : E) : Prop where
  busy : s.busy = some r
  entry : s.mem.entry r = some e
  pending : S.status e = .pending
  gen : S.gen e = s.mem.gen + 1

variable (S) in
/-- The document after the commit of `e`. -/
def Doc.committed (m : Doc ρ E κ ι) (e : E) : Doc ρ E κ ι :=
  { m with gen := S.gen e, active := S.batch e }

/-- **The writes of a step**: none, or one of the document in memory. -/
theorem Step.log_cases (hstep : Step S π s s') :
    s'.log = s.log ∨ (s'.loaded = true ∧ s'.log = s'.mem :: s.log) := by
  cases hstep with
  | commit hl hb he hp hg => exact .inr ⟨hl, rfl⟩
  | @succeed r e e' written p hl hb he hp ha hs hg hpos hπ hpost =>
    cases written with
    | false => exact .inl rfl
    | true => exact .inr ⟨hl, rfl⟩
  | flush hl => exact .inr ⟨hl, rfl⟩
  | _ => exact .inl rfl

/-- **The documents that count after a step**: they counted before, or one record was set, or
a batch was committed. -/
theorem Step.current_cases (hstep : Step S π s s') (h : Inv S s) {m : Doc ρ E κ ι}
    (hm : s'.Current m) :
    s.Current m ∨ (s.loaded = true ∧ ∃ r e, Sets S π s r e ∧ m = s.mem.put r e) ∨
      (s.loaded = true ∧ ∃ r e, Commits S s r e ∧ m = s.mem.committed S e) := by
  cases hstep with
  | start hl hb hp hg hs hv hn hπ =>
    rcases hm with ⟨-, rfl⟩ | rfl
    · exact .inr (.inl ⟨hl, _, _, .start hp hg hπ, rfl⟩)
    · exact .inl (.inr rfl)
  | update hl hb he hp ha hp' =>
    rcases hm with ⟨-, rfl⟩ | rfl
    · exact .inr (.inl ⟨hl, _, _, .update hb he hp ha hp', rfl⟩)
    · exact .inl (.inr rfl)
  | commit hl hb he hp hg =>
    rcases hm with ⟨-, rfl⟩ | rfl
    · exact .inr (.inr ⟨hl, _, _, ⟨hb, he, hp, hg⟩, rfl⟩)
    · exact .inr (.inr ⟨hl, _, _, ⟨hb, he, hp, hg⟩, rfl⟩)
  | unlock => exact .inl hm
  | fail hl hb he hp ha hf hg =>
    rcases hm with ⟨-, rfl⟩ | rfl
    · exact .inr (.inl ⟨hl, _, _, .fail he hp ha hf hg, rfl⟩)
    · exact .inl (.inr rfl)
  | @succeed r e e' written p hl hb he hp ha hs hg hpos hπ hpost =>
    have hput : s.loaded = true ∧ ∃ x e₁, Sets S π s x e₁ ∧ s.mem.put r e' = s.mem.put x e₁ :=
      ⟨hl, r, e', .succeed he hp ha hs hg hpos hπ, rfl⟩
    rcases hm with ⟨-, rfl⟩ | rfl
    · exact .inr (.inl hput)
    · cases written with
      | false => exact .inl (.inr rfl)
      | true => exact .inr (.inl hput)
  | flush hl =>
    rcases hm with ⟨-, rfl⟩ | rfl
    · exact .inl (.inl ⟨hl, rfl⟩)
    · exact .inl (.inl ⟨hl, rfl⟩)
  | crash =>
    rcases hm with ⟨hl, -⟩ | rfl
    · cases hl
    · exact .inl (.inr rfl)
  | load hb => exact .inl (h.current_load hm)

/-- **All documents after a step**: old ones, a blank one, or one in which a record was set or
a batch committed. -/
theorem Step.docs_cases (hstep : Step S π s s') (h : Inv S s) {m : Doc ρ E κ ι}
    (hm : m ∈ s'.mem :: s'.log) :
    m ∈ s.mem :: s.log ∨ m = .blank ∨
      (s.loaded = true ∧ ∃ r e, Sets S π s r e ∧ m = s.mem.put r e) ∨
      (s.loaded = true ∧ ∃ r e, Commits S s r e ∧ m = s.mem.committed S e) := by
  have hcurrent : s'.Current m → m ∈ s.mem :: s.log ∨ m = .blank ∨
      (s.loaded = true ∧ ∃ r e, Sets S π s r e ∧ m = s.mem.put r e) ∨
      (s.loaded = true ∧ ∃ r e, Commits S s r e ∧ m = s.mem.committed S e) := by
    intro hc
    rcases hstep.current_cases h hc with hc | hc
    · exact hc.mem_docs.imp_right .inl
    · exact .inr (.inr hc)
  -- the memory counts if it is loaded and is blank if it is not
  rcases List.mem_cons.mp hm with rfl | hm
  · cases hl : s'.loaded with
    | true => exact hcurrent (.inl ⟨hl, rfl⟩)
    | false => exact .inr (.inl ((inv_step hstep h).unloaded hl).1)
  · rcases hstep.log_cases with hlog | ⟨hl, hlog⟩
    · rw [hlog] at hm
      exact .inl (List.mem_cons_of_mem _ hm)
    · rw [hlog] at hm
      rcases List.mem_cons.mp hm with rfl | hm
      · exact hcurrent (.inl ⟨hl, rfl⟩)
      · exact .inl (List.mem_cons_of_mem _ hm)

/-- Nothing written is ever lost. -/
theorem Step.log_suffix (hstep : Step S π s s') : s.log <:+ s'.log := by
  rcases hstep.log_cases with hlog | ⟨-, hlog⟩
  · exact hlog.symm ▸ List.suffix_refl s.log
  · rw [hlog]
    exact List.suffix_cons _ _

theorem Steps.log_suffix (hsteps : Steps S π s s') : s.log <:+ s'.log := by
  refine Steps.preserve (I := fun t => s.log <:+ t.log) ?_ hsteps (List.suffix_refl _)
  intro t t' hstep h
  exact h.trans hstep.log_suffix

end Steps

end TboxSec.Journal
