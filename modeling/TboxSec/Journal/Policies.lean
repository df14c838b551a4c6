import TboxSec.Journal.Invariants

/-!
# What a policy buys

Invariants of the journalled batch protocol that hold when the store's policy is strict
enough.

* `Traced`: every batch a store holds was given with a request it took up.
* `Sealed`: without recovery by generation number, every success carries its evidence.
* `Landed`: if a request is taken up only when no pending record has **its** generation, then
  a succeeded record's batch was active at some time.
* `Kept`: if a request is taken up only when no pending record has the **active** generation,
  then a request whose batch was active is never settled as failed.
* `Frozen`: if only unknown requests are taken up, a settled record that is also on disk never
  changes.
* `Marked`, `Stamped`: what every record of a store has, and what the record of a commit keeps.
* `Posts`: under these conditions the active batch is posted, or its record is still pending.

Each is a statement about the documents a store holds, proved for one step from the case
lemmas of `TboxSec.Journal.Invariants` and then for any number of steps. So each invariant comes
with the same few lemmas: `…_fresh` for a store that has just been made, `…_step` for one step of
the protocol, `…_steps` for a run, and `….mono` where its parameter may grow along the run.

The conditions on the policy are named after what they ask of it (`Policy.Unknown`,
`Policy.Unrivalled`, `Policy.Settled`, `Policy.Steady`). A user of the protocol shows them of its
own decisions once, and none of the invariants looks at the decisions otherwise.
-/

namespace TboxSec.Journal

universe u v w z

variable {ρ : Type z} {E : Type u} {κ : Type v} {ι : Type w} [DecidableEq ρ]
variable {S : Scheme E κ ι} {π : Policy ρ E κ ι} {s s' : Sys ρ E κ ι}

/-- An invariant that needs the basic one, over any number of steps. -/
private theorem Steps.preserve_inv {I : Sys ρ E κ ι → Prop}
    (hstep : ∀ s s', Step S π s s' → Inv S s → I s → I s') (h : Steps S π s s') (hinv : Inv S s)
    (hs : I s) : I s' := by
  -- the basic invariant is carried along with the one at hand
  have hboth : Inv S s' ∧ I s' := by
    refine Steps.preserve (I := fun t => Inv S t ∧ I t) ?_ h ⟨hinv, hs⟩
    rintro t t' ht ⟨hti, htI⟩
    exact ⟨inv_step ht hti, hstep t t' ht hti htI⟩
  exact hboth.2

omit [DecidableEq ρ] in
/-- A record that is set describes the batch of the record before it, or starts a request. -/
private theorem Sets.batch_cases {r : ρ} {e : E} (h : Sets S π s r e) :
    π.start s.mem r e ∨ ∃ e₀, s.mem.entry r = some e₀ ∧ S.Alike e₀ e := by
  cases h with
  | start hp hg hπ => exact .inl hπ
  | update hb he hp ha hp' => exact .inr ⟨_, he, ha⟩
  | fail he hp ha hf hg => exact .inr ⟨_, he, ha⟩
  | succeed he hp ha hs hg hpos hπ => exact .inr ⟨_, he, ha⟩

omit [DecidableEq ρ] in
/-- A record that succeeds was pending under the active generation. -/
private theorem Sets.succeed_of_status {r : ρ} {e : E} (h : Sets S π s r e)
    (hs : S.status e = .succeeded) :
    ∃ e₀, s.mem.entry r = some e₀ ∧ S.status e₀ = .pending ∧ S.Alike e₀ e ∧
      S.gen e₀ = s.mem.gen ∧ 0 < s.mem.gen ∧ (π.certify r e ∨ π.recover r e₀) := by
  cases h with
  | start hp hg hπ => rw [hp] at hs; cases hs
  | update hb he hp ha hp' => rw [hp'] at hs; cases hs
  | fail he hp ha hf hg => rw [hf] at hs; cases hs
  | succeed he hp ha hs' hg hpos hπ => exact ⟨_, he, hp, ha, hg, hpos, hπ⟩

/-! ### Origins -/

section Traced

variable (S) in
/-- Every batch in the documents has an origin `O`. -/
def Traced (O : ρ → (κ → Option ι) → Prop) (s : Sys ρ E κ ι) : Prop :=
  ∀ m ∈ s.mem :: s.log, (∀ r e, m.entry r = some e → O r (S.batch e)) ∧
    (0 < m.gen → ∃ r, O r m.active)

variable {O : ρ → (κ → Option ι) → Prop}

omit [DecidableEq ρ] in
/-- A new store holds no batch. -/
theorem traced_fresh : Traced S O (Sys.fresh : Sys ρ E κ ι) := by
  intro m hm
  rw [List.mem_singleton.mp hm]
  exact ⟨fun r e h => (by cases h), fun h => absurd h (lt_irrefl 0)⟩

omit [DecidableEq ρ] in
/-- A batch that was given before a later request came was given after it, too. -/
theorem Traced.mono {O' : ρ → (κ → Option ι) → Prop} (h : Traced S O s)
    (hO : ∀ r b, O r b → O' r b) : Traced S O' s := by
  intro m hm
  refine ⟨fun r e he => hO _ _ ((h m hm).1 r e he), fun hg => ?_⟩
  obtain ⟨r, hr⟩ := (h m hm).2 hg
  exact ⟨r, hO _ _ hr⟩

/-- A step brings no batch into the documents but that of a request which it takes up. -/
theorem traced_step (hO : ∀ m r e, π.start m r e → O r (S.batch e)) (hstep : Step S π s s')
    (hinv : Inv S s) (h : Traced S O s) : Traced S O s' := by
  intro m hm
  have hmem := h s.mem (List.mem_cons_self ..)
  rcases hstep.docs_cases hinv hm with hm | rfl | ⟨-, r, e, hset, rfl⟩ | ⟨-, r, e, hc, rfl⟩
  · exact h m hm
  · exact ⟨fun r e he => (by cases he), fun hg => absurd hg (lt_irrefl 0)⟩
  · refine ⟨fun x e' hx => ?_, hmem.2⟩
    rcases Doc.put_entry_eq_some hx with ⟨rfl, rfl⟩ | ⟨-, hx⟩
    · -- a new record brings its origin with it, an updated one keeps the batch it had
      rcases hset.batch_cases with hπ | ⟨e₀, he₀, ha⟩
      · exact hO _ _ _ hπ
      · rw [ha.2]
        exact hmem.1 _ _ he₀
    · exact hmem.1 x e' hx
  · exact ⟨hmem.1, fun _ => ⟨r, hmem.1 r e hc.entry⟩⟩

/-- **Every batch of a run was given**, in all documents of the store, those on disk included. -/
theorem traced_steps (hO : ∀ m r e, π.start m r e → O r (S.batch e)) (hsteps : Steps S π s s')
    (hinv : Inv S s) (h : Traced S O s) : Traced S O s' :=
  Steps.preserve_inv (fun _ _ => traced_step hO) hsteps hinv h

end Traced

/-! ### Evidence -/

section Sealed

variable (S) in
/-- Every succeeded record carries the evidence `P`. -/
def Sealed (P : ρ → E → Prop) (s : Sys ρ E κ ι) : Prop :=
  ∀ m ∈ s.mem :: s.log, ∀ r e, m.entry r = some e → S.status e = .succeeded → P r e

variable {P : ρ → E → Prop}

omit [DecidableEq ρ] in
/-- A new store holds no success. -/
theorem sealed_fresh : Sealed S P (Sys.fresh : Sys ρ E κ ι) := by
  intro m hm r e he
  rw [List.mem_singleton.mp hm] at he
  cases he

omit [DecidableEq ρ] in
/-- Evidence that was enough stays enough. -/
theorem Sealed.mono {P' : ρ → E → Prop} (h : Sealed S P s) (hP : ∀ r e, P r e → P' r e) :
    Sealed S P' s :=
  fun m hm r e he hs => hP r e (h m hm r e he hs)

/-- A step settles a record as succeeded only by certifying it, since recovery by number is ruled
out. -/
private theorem sealed_step (hcert : ∀ r e, π.certify r e → P r e) (hrec : ∀ r e, ¬ π.recover r e)
    (hstep : Step S π s s') (hinv : Inv S s) (h : Sealed S P s) : Sealed S P s' := by
  intro m hm x e' hx hs'
  have hmem := h s.mem (List.mem_cons_self ..)
  rcases hstep.docs_cases hinv hm with hm | rfl | ⟨-, r, e, hset, rfl⟩ | ⟨-, r, e, hc, rfl⟩
  · exact h m hm x e' hx hs'
  · cases hx
  · rcases Doc.put_entry_eq_some hx with ⟨rfl, rfl⟩ | ⟨-, hx⟩
    · -- a success is certified, because recovery is ruled out
      obtain ⟨e₀, -, -, -, -, -, hπ⟩ := hset.succeed_of_status hs'
      exact hcert _ _ (hπ.resolve_right (hrec _ _))
    · exact hmem x e' hx hs'
  · exact hmem x e' hx hs'

/-- **Every success of a run carries its evidence.** -/
theorem sealed_steps (hcert : ∀ r e, π.certify r e → P r e) (hrec : ∀ r e, ¬ π.recover r e)
    (hsteps : Steps S π s s') (hinv : Inv S s) (h : Sealed S P s) : Sealed S P s' :=
  Steps.preserve_inv (fun _ _ => sealed_step hcert hrec) hsteps hinv h

end Sealed

/-! ### A success was active -/

section Landed

variable (S) in
/-- A request is taken up only when no pending record has its generation. -/
def Policy.Unrivalled (π : Policy ρ E κ ι) : Prop :=
  ∀ m r e, π.start m r e → ∀ r' e', m.entry r' = some e' → S.status e' = .pending →
    S.gen e' ≠ S.gen e

variable (S) in
/-- A pending record of the active generation describes the active batch, a request being
worked on has no rival of the next generation, and a succeeded record's batch was active in
some document written. -/
structure Landed (s : Sys ρ E κ ι) : Prop where
  pending : ∀ m ∈ s.mem :: s.log, ∀ r e, m.entry r = some e → S.status e = .pending →
    S.gen e = m.gen → 0 < m.gen → m.active = S.batch e
  rival : ∀ r, s.busy = some r → ∀ r' e', s.mem.entry r' = some e' → S.status e' = .pending →
    S.gen e' = s.mem.gen + 1 → r' = r
  landed : ∀ m ∈ s.mem :: s.log, ∀ r e, m.entry r = some e → S.status e = .succeeded →
    ∃ D ∈ s.log, 0 < D.gen ∧ D.active = S.batch e

omit [DecidableEq ρ] in
/-- A new store has no records. -/
theorem landed_fresh : Landed S (Sys.fresh : Sys ρ E κ ι) where
  pending m hm r e he := by
    rw [List.mem_singleton.mp hm] at he
    cases he
  rival r h := by cases h
  landed m hm r e he := by
    rw [List.mem_singleton.mp hm] at he
    cases he

omit [DecidableEq ρ] in
/-- Some document written has the batch that is active in memory. -/
private theorem Inv.exists_active (h : Inv S s) (hl : s.loaded = true) (hpos : 0 < s.mem.gen) :
    ∃ D ∈ s.log, 0 < D.gen ∧ D.active = s.mem.active := by
  obtain ⟨hgen, hact⟩ := h.sync hl
  rw [Sys.latest] at hgen hact
  cases hlog : s.log with
  | nil =>
    rw [hlog] at hgen
    change s.mem.gen = 0 at hgen
    omega
  | cons D rest =>
    rw [hlog] at hgen hact
    refine ⟨D, List.mem_cons_self .., ?_, hact.symm⟩
    change s.mem.gen = D.gen at hgen
    omega

/-- A pending record of the current generation keeps the active batch as its own: the generation
moves on only with a commit, which makes the batch of the record active. -/
private theorem landed_pending_step (hstep : Step S π s s') (hinv : Inv S s) (h : Landed S s) :
    ∀ m ∈ s'.mem :: s'.log, ∀ r e, m.entry r = some e → S.status e = .pending →
      S.gen e = m.gen → 0 < m.gen → m.active = S.batch e := by
  intro m hm x e' hx hp' hg' hpos
  have hmem := h.pending s.mem (List.mem_cons_self ..)
  rcases hstep.docs_cases hinv hm with hm | rfl | ⟨-, r, e, hset, rfl⟩ | ⟨-, r, e, hc, rfl⟩
  · exact h.pending m hm x e' hx hp' hg' hpos
  · cases hx
  · rcases Doc.put_entry_eq_some hx with ⟨rfl, rfl⟩ | ⟨-, hx⟩
    · cases hset with
      | start hp hg hπ =>
        change S.gen e' = s.mem.gen at hg'
        omega
      | update hb he hp ha hp'' =>
        rw [ha.2]
        exact hmem x _ he hp (ha.1.symm.trans hg') hpos
      | fail he hp ha hf hg => rw [hf] at hp'; cases hp'
      | succeed he hp ha hs hg hpos hπ => rw [hs] at hp'; cases hp'
    · exact hmem x e' hx hp' hg' hpos
  · -- after a commit, only the committed record can have the active generation
    have hxr : x = r := h.rival r hc.busy x e' hx hp' (hg'.trans hc.gen)
    subst hxr
    rw [← Option.some.inj (hc.entry.symm.trans hx)]
    rfl

/-- While a request is being worked on, no other pending record has the generation that it is about
to commit. -/
private theorem landed_rival_step (hπ : π.Unrivalled S) (hstep : Step S π s s')
    (hinv : Inv S s) (h : Landed S s) :
    ∀ r, s'.busy = some r → ∀ r' e', s'.mem.entry r' = some e' → S.status e' = .pending →
      S.gen e' = s'.mem.gen + 1 → r' = r := by
  intro r hr r' e' he' hp' hg'
  cases hstep with
  | start hl hb hp hg hs hv hn hstart =>
    obtain rfl := Option.some.inj hr
    rcases Doc.put_entry_eq_some he' with ⟨rfl, rfl⟩ | ⟨-, he'⟩
    · rfl
    · exact absurd (hg'.trans hg.symm) (hπ _ _ _ hstart r' e' he' hp')
  | update hl hb he hp ha hp'' =>
    obtain rfl := Option.some.inj (hb.symm.trans hr)
    rcases Doc.put_entry_eq_some he' with ⟨rfl, rfl⟩ | ⟨-, he'⟩
    · rfl
    · exact h.rival _ hb r' e' he' hp' hg'
  | @commit r₀ e hl hb he hp hg =>
    -- the generation after the next one is not in use yet
    have hle := (hinv.mem.entry r' e' he').2.2
    change S.gen e' = S.gen e + 1 at hg'
    omega
  | unlock => cases hr
  | fail hl hb he hp ha hf hg =>
    rcases Doc.put_entry_eq_some he' with ⟨rfl, rfl⟩ | ⟨-, he'⟩
    · rw [hf] at hp'; cases hp'
    · exact h.rival r hr r' e' he' hp' hg'
  | succeed hl hb he hp ha hs hg hpos hseal hpost =>
    rcases Doc.put_entry_eq_some he' with ⟨rfl, rfl⟩ | ⟨-, he'⟩
    · rw [hs] at hp'; cases hp'
    · exact h.rival r hr r' e' he' hp' hg'
  | flush hl => exact h.rival r hr r' e' he' hp' hg'
  | crash => cases hr
  | load hb =>
    change s.busy = some r at hr
    rw [hb] at hr
    cases hr

/-- One step keeps all of `Landed`: the two parts above, and that a success was active. -/
private theorem landed_step (hπ : π.Unrivalled S) (hstep : Step S π s s') (hinv : Inv S s)
    (h : Landed S s) : Landed S s' where
  pending := landed_pending_step hstep hinv h
  rival := landed_rival_step hπ hstep hinv h
  landed := by
    intro m hm x e' hx hs'
    have hsub : ∀ D ∈ s.log, D ∈ s'.log := fun D hD => hstep.log_suffix.subset hD
    have hold : ∀ m ∈ s.mem :: s.log, m.entry x = some e' →
        ∃ D ∈ s'.log, 0 < D.gen ∧ D.active = S.batch e' := by
      intro m hm hx
      obtain ⟨D, hD, hD'⟩ := h.landed m hm x e' hx hs'
      exact ⟨D, hsub D hD, hD'⟩
    rcases hstep.docs_cases hinv hm with hm | rfl | ⟨hl, r, e, hset, rfl⟩ | ⟨-, r, e, hc, rfl⟩
    · exact hold m hm hx
    · cases hx
    · rcases Doc.put_entry_eq_some hx with ⟨rfl, rfl⟩ | ⟨-, hx⟩
      · obtain ⟨e₀, he, hp, ha, hg, hpos, -⟩ := hset.succeed_of_status hs'
        -- the record was pending under the active generation, so the batch in memory is its own
        obtain ⟨D, hD, hDpos, hDact⟩ := hinv.exists_active hl hpos
        refine ⟨D, hsub D hD, hDpos, ?_⟩
        rw [hDact, ha.2]
        exact h.pending _ (List.mem_cons_self ..) x _ he hp hg hpos
      · exact hold _ (List.mem_cons_self ..) hx
    · exact hold s.mem (List.mem_cons_self ..) hx

/-- **Every success of a run was active at some time.** -/
theorem landed_steps (hπ : π.Unrivalled S) (hsteps : Steps S π s s') (hinv : Inv S s)
    (h : Landed S s) : Landed S s' :=
  Steps.preserve_inv (fun _ _ => landed_step hπ) hsteps hinv h

end Landed

/-! ### An active batch is not given up -/

section Kept

variable (S) in
/-- Some document written has a pending record of `r` under the active generation. -/
def Committed (log : List (Doc ρ E κ ι)) (r : ρ) : Prop :=
  ∃ D ∈ log, ∃ e, D.entry r = some e ∧ S.status e = .pending ∧ S.gen e = D.gen ∧ 0 < D.gen

/-- Only unknown requests are taken up. -/
def Policy.Unknown (π : Policy ρ E κ ι) : Prop :=
  ∀ m r e, π.start m r e → m.entry r = none

variable (S) in
/-- A request is taken up only when no pending record has the active generation. -/
def Policy.Settled (π : Policy ρ E κ ι) : Prop :=
  ∀ m r e, π.start m r e → ∀ r' e', m.entry r' = some e' → S.status e' = .pending →
    S.gen e' = m.gen → m.gen = 0

variable (S) in
/-- Only batches whose keys can be found again are taken up. -/
def Policy.Steady (π : Policy ρ E κ ι) : Prop :=
  ∀ m r e, π.start m r e → ∀ k i, S.batch e k = some i → S.steady i

variable (S) in
/-- The record of `r` in `m` is succeeded, or still pending under the active generation. -/
def Holds (m : Doc ρ E κ ι) (r : ρ) : Prop :=
  ∃ e, m.entry r = some e ∧
    (S.status e = .succeeded ∨ (S.status e = .pending ∧ S.gen e = m.gen ∧ 0 < m.gen))

variable (S) in
/-- Every request whose batch was active still holds it, and while a request of the next
generation is worked on, nothing of the active generation is pending. -/
structure Kept (s : Sys ρ E κ ι) : Prop where
  holds : ∀ r, Committed S s.log r → ∀ m, s.Current m → Holds S m r
  busy : ∀ r e, s.busy = some r → s.mem.entry r = some e → S.gen e = s.mem.gen + 1 →
    ∀ r' e', s.mem.entry r' = some e' → S.status e' = .pending → S.gen e' = s.mem.gen →
      s.mem.gen = 0
  steady : Traced S (fun _ b => ∀ k i, b k = some i → S.steady i) s

omit [DecidableEq ρ] in
/-- A new store has no active batch to keep. -/
theorem kept_fresh : Kept S (Sys.fresh : Sys ρ E κ ι) where
  holds r h := by
    obtain ⟨D, hD, -⟩ := h
    cases hD
  busy r e h := by cases h
  steady := traced_fresh

omit [DecidableEq ρ] in
/-- The keys of the active batch can be found again. -/
theorem Traced.steady_active (h : Traced S (fun _ b => ∀ k i, b k = some i → S.steady i) s)
    (hinv : Inv S s) {k : κ} {i : ι} (hi : s.mem.active k = some i) : S.steady i := by
  obtain ⟨-, hact⟩ := h s.mem (List.mem_cons_self ..)
  have hpos : 0 < s.mem.gen := by
    by_contra h0
    rw [hinv.mem.blank (by omega)] at hi
    cases hi
  obtain ⟨-, hO⟩ := hact hpos
  exact hO k i hi

/-- Setting a record keeps what every request holds. -/
private theorem Kept.holds_put (h : Kept S s) (hinv : Inv S s) (hπ : π.Unknown)
    {r : ρ} {e : E} (hset : Sets S π s r e) {x : ρ} (hx : Holds S s.mem x) :
    Holds S (s.mem.put r e) x := by
  by_cases hxr : x = r
  · subst hxr
    obtain ⟨e₀, he₀, hstat⟩ := hx
    refine ⟨e, by simp, ?_⟩
    cases hset with
    | start hp hg hstart => rw [hπ _ _ _ hstart] at he₀; cases he₀
    | update hb he hp ha hp' =>
      obtain rfl := Option.some.inj (he.symm.trans he₀)
      rcases hstat with hs | ⟨-, hg, hpos⟩
      · rw [hs] at hp; cases hp
      · exact .inr ⟨hp', ha.1.trans hg, hpos⟩
    | fail he hp ha hf hg =>
      obtain rfl := Option.some.inj (he.symm.trans he₀)
      rcases hstat with hs | ⟨-, hg', hpos⟩
      · rw [hs] at hp; cases hp
      · -- giving up the active generation needs a key that cannot be found again
        obtain ⟨k, i, hi, hns⟩ := hg hg' hpos
        exact absurd (h.steady.steady_active hinv hi) hns
    | succeed he hp ha hs hg hpos hseal => exact .inl hs
  · obtain ⟨e₀, he₀, hstat⟩ := hx
    exact ⟨e₀, by rw [Doc.put_entry_of_ne _ _ hxr]; exact he₀, hstat⟩

omit [DecidableEq ρ] in
/-- A commit keeps what every request holds. -/
private theorem Kept.holds_committed (h : Kept S s) {r : ρ} {e : E} (hc : Commits S s r e) {x : ρ}
    (hx : Holds S s.mem x) : Holds S (s.mem.committed S e) x := by
  obtain ⟨e₀, he₀, hs | ⟨hp, hg, hpos⟩⟩ := hx
  · exact ⟨e₀, he₀, .inl hs⟩
  · -- nothing of the active generation is pending while the next one is worked on
    have h0 := h.busy r e hc.busy hc.entry hc.gen x e₀ he₀ hp hg
    omega

/-- While a request is about to commit, no pending record is left at the active generation. -/
private theorem kept_busy_step (hπ : π.Settled S) (hstep : Step S π s s') (h : Kept S s) :
    ∀ r e, s'.busy = some r → s'.mem.entry r = some e → S.gen e = s'.mem.gen + 1 →
      ∀ r' e', s'.mem.entry r' = some e' → S.status e' = .pending → S.gen e' = s'.mem.gen →
        s'.mem.gen = 0 := by
  intro x e₁ hx he₁ hg₁ r' e' he' hp' hg'
  cases hstep with
  | start hl hb hp hg hs hv hn hstart =>
    -- the record started has the next generation, so the other one was there before
    change S.gen e' = s.mem.gen at hg'
    rcases Doc.put_entry_eq_some he' with ⟨-, rfl⟩ | ⟨-, he'⟩
    · omega
    · exact hπ s.mem _ _ hstart r' e' he' hp' hg'
  | @update r e e₂ hl hb he hp ha hp'' =>
    obtain rfl := Option.some.inj (hb.symm.trans hx)
    rw [show ((s.withMem (s.mem.put r e₂)).mem.entry r) = some e₂ from
      Doc.put_entry_self ..] at he₁
    obtain rfl := Option.some.inj he₁
    change S.gen e' = s.mem.gen at hg'
    change S.gen e₂ = s.mem.gen + 1 at hg₁
    rcases Doc.put_entry_eq_some he' with ⟨-, rfl⟩ | ⟨-, he'⟩
    · omega
    · exact h.busy r e hb he (ha.1.symm.trans hg₁) r' e' he' hp' hg'
  | @commit r e hl hb he hp hg =>
    obtain rfl := Option.some.inj (hb.symm.trans hx)
    obtain rfl := Option.some.inj (he.symm.trans he₁)
    change S.gen e = S.gen e + 1 at hg₁
    omega
  | unlock => cases hx
  | @fail r e e₂ hl hb he hp ha hf hg =>
    rcases hb with hb | hb
    · exact absurd (hb.symm.trans hx) (by simp)
    · obtain rfl := Option.some.inj (hb.symm.trans hx)
      rcases Doc.put_entry_eq_some he' with ⟨-, rfl⟩ | ⟨hne, he'⟩
      · rw [hf] at hp'; cases hp'
      · rw [show ((s.withMem (s.mem.put r e₂)).mem.entry r) = some e₂ from
          Doc.put_entry_self ..] at he₁
        obtain rfl := Option.some.inj he₁
        exact h.busy r e hb he (ha.1.symm.trans hg₁) r' e' he' hp' hg'
  | @succeed r e e₂ written p hl hb he hp ha hs hg hpos hseal hpost =>
    rcases hb with hb | hb
    · exact absurd (hb.symm.trans hx) (by simp)
    · obtain rfl := Option.some.inj (hb.symm.trans hx)
      rw [show ((s.mem.put r e₂).entry r) = some e₂ from Doc.put_entry_self ..] at he₁
      obtain rfl := Option.some.inj he₁
      change S.gen e₂ = s.mem.gen + 1 at hg₁
      rw [ha.1] at hg₁
      omega
  | flush hl => exact h.busy x e₁ hx he₁ hg₁ r' e' he' hp' hg'
  | crash => cases hx
  | load hb => exact absurd (hb.symm.trans hx) (by simp)

/-- One step keeps all of `Kept`. A record is settled as failed only while its batch is not active.
-/
private theorem kept_step (hunk : π.Unknown) (hset : π.Settled S) (hst : π.Steady S)
    (hstep : Step S π s s') (hinv : Inv S s) (h : Kept S s) : Kept S s' where
  holds := by
    intro r hr m hm
    -- a request that held its batch before the step
    have hold : Committed S s.log r → Holds S m r := by
      intro hr
      rcases hstep.current_cases hinv hm with hm | ⟨hl, x, e, hx, rfl⟩ | ⟨hl, x, e, hc, rfl⟩
      · exact h.holds r hr m hm
      · exact h.holds_put hinv hunk hx (h.holds r hr _ (.inl ⟨hl, rfl⟩))
      · exact h.holds_committed hc (h.holds r hr _ (.inl ⟨hl, rfl⟩))
    obtain ⟨D, hD, e, he, hp, hg, hpos⟩ := hr
    rcases hstep.log_cases with hlog | ⟨hl, hlog⟩
    · exact hold ⟨D, hlog ▸ hD, e, he, hp, hg, hpos⟩
    · rw [hlog] at hD
      rcases List.mem_cons.mp hD with rfl | hD
      · -- the document just written is the only one that counts
        have hm' : m = s'.mem := by
          rcases hm with ⟨-, rfl⟩ | rfl
          · rfl
          · rw [Sys.latest, hlog]
            rfl
        rw [hm']
        exact ⟨e, he, .inr ⟨hp, hg, hpos⟩⟩
      · exact hold ⟨D, hD, e, he, hp, hg, hpos⟩
  busy := kept_busy_step hset hstep h
  steady := traced_step (fun m r e hstart => hst m r e hstart) hstep hinv h.steady

/-- **A request whose batch was active is never settled as failed**, at any time of a run. -/
theorem kept_steps (hunk : π.Unknown) (hset : π.Settled S) (hst : π.Steady S)
    (hsteps : Steps S π s s') (hinv : Inv S s) (h : Kept S s) : Kept S s' :=
  Steps.preserve_inv (fun _ _ => kept_step hunk hset hst) hsteps hinv h

end Kept

/-! ### A settled record stays -/

section Frozen

/-- Every document that counts has the record `e` of `r`. -/
def Frozen (r : ρ) (e : E) (s : Sys ρ E κ ι) : Prop := ∀ m, s.Current m → m.entry r = some e

/-- A settled record is not taken up again, and nothing else writes to it. -/
private theorem frozen_step {r : ρ} {e : E} (hunk : ∀ m e', π.start m r e' → m.entry r = none)
    (he : S.status e ≠ .pending)
    (hstep : Step S π s s') (hinv : Inv S s) (h : Frozen r e s) : Frozen r e s' := by
  intro m hm
  rcases hstep.current_cases hinv hm with hm | ⟨hl, x, e', hx, rfl⟩ | ⟨hl, x, e', hc, rfl⟩
  · exact h m hm
  · -- a settled record is neither unknown nor pending, so no step sets it
    have hmem : s.mem.entry r = some e := h _ (.inl ⟨hl, rfl⟩)
    by_cases hxr : r = x
    · subst hxr
      cases hx with
      | start hp hg hstart => rw [hunk _ _ hstart] at hmem; cases hmem
      | update hb he' hp ha hp' =>
        exact absurd hp (Option.some.inj (hmem.symm.trans he') ▸ he)
      | fail he' hp ha hf hg => exact absurd hp (Option.some.inj (hmem.symm.trans he') ▸ he)
      | succeed he' hp ha hs hg hpos hseal =>
        exact absurd hp (Option.some.inj (hmem.symm.trans he') ▸ he)
    · rw [Doc.put_entry_of_ne _ _ hxr]
      exact hmem
  · exact h s.mem (.inl ⟨hl, rfl⟩)

/-- **A settled record never changes**, once it is on disk as well. -/
theorem frozen_steps {r : ρ} {e : E} (hunk : ∀ m e', π.start m r e' → m.entry r = none)
    (he : S.status e ≠ .pending)
    (hsteps : Steps S π s s') (hinv : Inv S s) (h : Frozen r e s) : Frozen r e s' :=
  Steps.preserve_inv (fun _ _ => frozen_step hunk he) hsteps hinv h

end Frozen

/-! ### Records of one kind -/

section Marked

/-- Every record in the documents meets `P`. -/
def Marked (P : ρ → E → Prop) (s : Sys ρ E κ ι) : Prop :=
  ∀ m ∈ s.mem :: s.log, ∀ r e, m.entry r = some e → P r e

variable {P : ρ → E → Prop}

omit [DecidableEq ρ] in
/-- A new store has no records to mark. -/
theorem marked_fresh : Marked P (Sys.fresh : Sys ρ E κ ι) := by
  intro m hm r e he
  rw [List.mem_singleton.mp hm] at he
  cases he

/-- What a record has when its request is taken up it keeps while it is only moved from phase to
phase. -/
private theorem marked_step (hstart : ∀ m r e, π.start m r e → P r e)
    (hP : ∀ r e e', S.Alike e e' → P r e → P r e') (hstep : Step S π s s') (hinv : Inv S s)
    (h : Marked P s) : Marked P s' := by
  intro m hm x e' hx
  have hmem := h s.mem (List.mem_cons_self ..)
  rcases hstep.docs_cases hinv hm with hm | rfl | ⟨-, r, e, hset, rfl⟩ | ⟨-, r, e, hc, rfl⟩
  · exact h m hm x e' hx
  · cases hx
  · rcases Doc.put_entry_eq_some hx with ⟨rfl, rfl⟩ | ⟨-, hx⟩
    · rcases hset.batch_cases with hπ | ⟨e₀, he₀, ha⟩
      · exact hstart _ _ _ hπ
      · exact hP _ _ _ ha (hmem _ _ he₀)
    · exact hmem x e' hx
  · exact hmem x e' hx

/-- **Every record of a run has what its request gave it.** -/
theorem marked_steps (hstart : ∀ m r e, π.start m r e → P r e)
    (hP : ∀ r e e', S.Alike e e' → P r e → P r e') (hsteps : Steps S π s s') (hinv : Inv S s)
    (h : Marked P s) : Marked P s' :=
  Steps.preserve_inv (fun _ _ => marked_step hstart hP) hsteps hinv h

end Marked

/-! ### A commit leaves its record -/

section Stamped

variable {r : ρ} {P : E → Prop}

/-- The document has a record of `r` that meets `P`. -/
def Bears (r : ρ) (P : E → Prop) (m : Doc ρ E κ ι) : Prop := ∃ e, m.entry r = some e ∧ P e

/-- A record that has a property still has it after a put, unless the put takes it away. -/
theorem Bears.put {m : Doc ρ E κ ι} (h : Bears r P m) {x : ρ} {e : E}
    (he : x = r → ∀ e₀, m.entry r = some e₀ → P e₀ → P e) : Bears r P (m.put x e) := by
  obtain ⟨e₀, he₀, hP⟩ := h
  by_cases hx : r = x
  · subst hx
    exact ⟨e, Doc.put_entry_self .., he rfl e₀ he₀ hP⟩
  · exact ⟨e₀, by rw [Doc.put_entry_of_ne _ _ hx]; exact he₀, hP⟩

/-- While only `r` is worked on: its record meets `P`, and so it does in every document above
the generation `n`. -/
structure Stamping (r : ρ) (P : E → Prop) (n : ℕ) (s : Sys ρ E κ ι) : Prop where
  busy : ∀ x, s.busy = some x → x = r ∧ Bears r P s.mem
  docs : ∀ m ∈ s.mem :: s.log, n < m.gen → Bears r P m

variable {n : ℕ} (hP : ∀ e e', S.Alike e e' → P e → P e')

include hP

/-- A record that is set keeps the stamp. -/
private theorem Sets.bears (hstart : ∀ m e, π.start m r e → P e) {x : ρ} {e : E}
    (h : Sets S π s x e)
    (hs : Bears r P s.mem) : Bears r P (s.mem.put x e) := by
  refine hs.put fun hx e₀ he₀ hP₀ => ?_
  subst hx
  rcases h.batch_cases with hπ | ⟨e₁, he₁, ha⟩
  · exact hstart _ _ hπ
  · exact hP _ _ ha (Option.some.inj (he₀.symm.trans he₁) ▸ hP₀)

/-- While the request is worked on, its record keeps the stamp. -/
private theorem stamping_step (hstart : ∀ m x e, π.start m x e → x = r ∧ P e)
    (hstep : Step S π s s')
    (hinv : Inv S s) (h : Stamping r P n s) : Stamping r P n s' where
  busy := by
    intro x hx
    cases hstep with
    | start hl hb hp hg hs hv hn hπ =>
      obtain rfl := Option.some.inj hx
      obtain ⟨rfl, hPe⟩ := hstart _ _ _ hπ
      exact ⟨rfl, _, Doc.put_entry_self .., hPe⟩
    | update hl hb he hp ha hp' =>
      obtain ⟨hxr, hbears⟩ := h.busy x hx
      exact ⟨hxr, hbears.put fun hy e₀ he₀ hP₀ => hP _ _ ha
        (Option.some.inj ((hy ▸ he).symm.trans he₀) ▸ hP₀)⟩
    | commit hl hb he hp hg => exact h.busy x hx
    | unlock => cases hx
    | fail hl hb he hp ha hf hg =>
      obtain ⟨hxr, hbears⟩ := h.busy x hx
      exact ⟨hxr, hbears.put fun hy e₀ he₀ hP₀ => hP _ _ ha
        (Option.some.inj ((hy ▸ he).symm.trans he₀) ▸ hP₀)⟩
    | succeed hl hb he hp ha hs hg hpos hπ hpost =>
      obtain ⟨hxr, hbears⟩ := h.busy x hx
      exact ⟨hxr, hbears.put fun hy e₀ he₀ hP₀ => hP _ _ ha
        (Option.some.inj ((hy ▸ he).symm.trans he₀) ▸ hP₀)⟩
    | flush hl => exact h.busy x hx
    | crash => cases hx
    | load hb => exact absurd (hb.symm.trans hx) (by simp)
  docs := by
    intro m hm hn
    rcases hstep.docs_cases hinv hm with hm | rfl | ⟨-, x, e, hset, rfl⟩ | ⟨-, x, e, hc, rfl⟩
    · exact h.docs m hm hn
    · exact absurd hn (Nat.not_lt_zero n)
    · exact hset.bears hP (fun m e hπ => (hstart m r e hπ).2)
        (h.docs s.mem (List.mem_cons_self ..) hn)
    · exact (h.busy x hc.busy).2

/-- The same for a run of steps under one call. -/
theorem stamping_steps (hstart : ∀ m x e, π.start m x e → x = r ∧ P e)
    (hsteps : Steps S π s s') (hinv : Inv S s) (h : Stamping r P n s) : Stamping r P n s' :=
  Steps.preserve_inv (fun _ _ => stamping_step hP hstart) hsteps hinv h

omit hP [DecidableEq ρ] in
/-- Before a request is worked on, no document is above the active generation. -/
theorem stamping_of_loaded (hinv : Inv S s) (hl : s.loaded = true) (hb : s.busy = none) :
    Stamping r P s.mem.gen s where
  busy x hx := absurd (hb.symm.trans hx) (by simp)
  docs m hm hn := by
    exfalso
    rcases List.mem_cons.mp hm with rfl | hm
    · omega
    · rcases hinv.mem_advances hl m hm with ⟨hgen, -⟩ | ⟨hgen, -⟩ <;> omega

/-- The documents of generation `n`, of which one was written, all bear the stamp. -/
structure Stamped (r : ρ) (P : E → Prop) (n : ℕ) (s : Sys ρ E κ ι) : Prop where
  docs : ∀ m ∈ s.mem :: s.log, m.gen = n → Bears r P m
  written : ∃ m ∈ s.log, m.gen = n

/-- After the commit the record is settled and only recoveries see it, so the stamp stays. -/
private theorem stamped_step (hunk : π.Unknown) (hpos : 0 < n) (hstep : Step S π s s')
    (hinv : Inv S s)
    (h : Stamped r P n s) : Stamped r P n s' where
  docs := by
    intro m hm hn
    have hold := h.docs s.mem (List.mem_cons_self ..)
    rcases hstep.docs_cases hinv hm with hm | rfl | ⟨-, x, e, hset, rfl⟩ | ⟨hl, x, e, hc, rfl⟩
    · exact h.docs m hm hn
    · change 0 = n at hn
      omega
    · have hbears := hold hn
      refine hbears.put fun hx e₀ he₀ hP₀ => ?_
      subst hx
      rcases hset.batch_cases with hπ | ⟨e₁, he₁, ha⟩
      · rw [hunk _ _ _ hπ] at he₀
        cases he₀
      · exact hP _ _ ha (Option.some.inj (he₀.symm.trans he₁) ▸ hP₀)
    · -- the generation is taken already
      obtain ⟨m', hm', hn'⟩ := h.written
      have hgen := hc.gen
      change S.gen e = n at hn
      rcases hinv.mem_advances hl m' hm' with ⟨hge, -⟩ | ⟨hge, -⟩ <;> omega
  written := by
    obtain ⟨m, hm, hn⟩ := h.written
    exact ⟨m, hstep.log_suffix.subset hm, hn⟩

/-- **The record of a commit keeps its stamp** in every later run. -/
theorem stamped_steps (hunk : π.Unknown) (hpos : 0 < n) (hsteps : Steps S π s s')
    (hinv : Inv S s) (h : Stamped r P n s) : Stamped r P n s' :=
  Steps.preserve_inv (fun _ _ => stamped_step hP hunk hpos) hsteps hinv h

end Stamped

/-! ### The active batch is posted -/

section Posts

variable (S) in
/-- The batch `p` is the active one, or the record of the active one is pending. -/
def Accounts (p : κ → Option ι) (m : Doc ρ E κ ι) : Prop :=
  p = m.active ∨ ∃ r e, m.entry r = some e ∧ S.status e = .pending ∧ S.gen e = m.gen ∧ 0 < m.gen

variable (S) in
/-- The batch last posted accounts for every document that counts. -/
def Posts (s : Sys ρ E κ ι) : Prop :=
  ∃ p, s.posted = some p ∧ ∀ m, s.Current m → Accounts S p m

/-- A record may be set if a pending record of the active generation stays one. -/
theorem Accounts.put {p : κ → Option ι} {m : Doc ρ E κ ι} (h : Accounts S p m) {r : ρ} {e : E}
    (he : ∀ e₀, m.entry r = some e₀ → S.status e₀ = .pending → S.gen e₀ = m.gen → 0 < m.gen →
      S.status e = .pending ∧ S.gen e = m.gen) : Accounts S p (m.put r e) := by
  rcases h with hp | ⟨x, e₀, he₀, hp₀, hg₀, hpos⟩
  · exact .inl hp
  · by_cases hxr : x = r
    · subst hxr
      obtain ⟨hpe, hge⟩ := he e₀ he₀ hp₀ hg₀ hpos
      exact .inr ⟨x, e, by simp, hpe, hge, hpos⟩
    · exact .inr ⟨x, e₀, by rw [Doc.put_entry_of_ne _ _ hxr]; exact he₀, hp₀, hg₀, hpos⟩

omit [DecidableEq ρ] in
/-- A new store has nothing active, and nothing to post. -/
theorem posts_fresh : Posts S (Sys.fresh : Sys ρ E κ ι) := by
  refine ⟨fun _ => none, rfl, ?_⟩
  rintro m (⟨hl, -⟩ | rfl)
  · cases hl
  · exact .inl rfl

omit [DecidableEq ρ] in
/-- The documents that count have one active batch. -/
private theorem Inv.current_active (h : Inv S s) (hl : s.loaded = true) {m : Doc ρ E κ ι}
    (hm : s.Current m) : m.active = s.mem.active := by
  rcases hm with ⟨-, rfl⟩ | rfl
  · rfl
  · exact (h.sync hl).2.symm

/-- One step keeps `Posts`: whoever makes a batch active posts it, or leaves its record pending for
the next start. -/
private theorem posts_step (hunk : π.Unknown) (hsm : ¬ π.smudge) (hstep : Step S π s s')
    (hinv : Inv S s) (hland : Landed S s)
    (hst : Traced S (fun _ b => ∀ k i, b k = some i → S.steady i) s) (h : Posts S s) :
    Posts S s' := by
  have hinv' := inv_step hstep hinv
  obtain ⟨p, hp, hact⟩ := h
  cases hstep with
  | start hl hb hpend hg hs hv hn hstart =>
    refine ⟨p, hp, ?_⟩
    rintro m (⟨-, rfl⟩ | rfl)
    · refine (hact s.mem (.inl ⟨hl, rfl⟩)).put fun e₀ he₀ => ?_
      rw [hunk _ _ _ hstart] at he₀
      cases he₀
    · exact hact _ (.inr rfl)
  | update hl hb he hpend ha hpend' =>
    refine ⟨p, hp, ?_⟩
    rintro m (⟨-, rfl⟩ | rfl)
    · refine (hact s.mem (.inl ⟨hl, rfl⟩)).put fun e₀ he₀ _ hg₀ _ => ?_
      obtain rfl := Option.some.inj (he.symm.trans he₀)
      exact ⟨hpend', ha.1.trans hg₀⟩
    · exact hact _ (.inr rfl)
  | @commit r e hl hb he hpend hg =>
    -- the committed record is pending under the new active generation
    have hcommit : Accounts S p (s.mem.committed S e) := by
      refine .inr ⟨r, e, he, hpend, rfl, ?_⟩
      change 0 < S.gen e
      omega
    refine ⟨p, hp, ?_⟩
    rintro m (⟨-, rfl⟩ | rfl)
    · exact hcommit
    · exact hcommit
  | unlock => exact ⟨p, hp, hact⟩
  | fail hl hb he hpend ha hf hg =>
    refine ⟨p, hp, ?_⟩
    rintro m (⟨-, rfl⟩ | rfl)
    · refine (hact s.mem (.inl ⟨hl, rfl⟩)).put fun e₀ he₀ _ hg₀ hpos => ?_
      obtain rfl := Option.some.inj (he.symm.trans he₀)
      obtain ⟨k, i, hi, hns⟩ := hg hg₀ hpos
      exact absurd (hst.steady_active hinv hi) hns
    · exact hact _ (.inr rfl)
  | @succeed r e e' written p' hl hb he hpend ha hs hg hpos hseal hpost =>
    -- the batch posted is the one of the record, and that is the active one
    have hbatch : s.mem.active = S.batch e :=
      hland.pending s.mem (List.mem_cons_self ..) r e he hpend hg hpos
    refine ⟨S.batch e', hpost.resolve_right fun h => hsm h.2, fun m hm => .inl ?_⟩
    rw [hinv'.current_active hl hm, ha.2]
    exact hbatch.symm
  | flush hl =>
    refine ⟨p, hp, ?_⟩
    rintro m (⟨-, rfl⟩ | rfl)
    · exact hact _ (.inl ⟨hl, rfl⟩)
    · exact hact _ (.inl ⟨hl, rfl⟩)
  | crash =>
    refine ⟨p, hp, ?_⟩
    rintro m (⟨hl, -⟩ | rfl)
    · cases hl
    · exact hact _ (.inr rfl)
  | load hb => exact ⟨p, hp, fun m hm => hact m (hinv.current_load hm)⟩

/-- **The active batch is posted, or its record is still pending**, throughout a run. -/
theorem posts_steps (hriv : π.Unrivalled S) (hunk : π.Unknown) (hπ : π.Steady S)
    (hsm : ¬ π.smudge) (hsteps : Steps S π s s') (hinv : Inv S s) (hland : Landed S s)
    (hst : Traced S (fun _ b => ∀ k i, b k = some i → S.steady i) s) (h : Posts S s) :
    Posts S s' := by
  have hall : (Landed S s' ∧ Traced S (fun _ b => ∀ k i, b k = some i → S.steady i) s') ∧
      Posts S s' := by
    -- the three invariants are carried together, each step lemma needs the others
    refine Steps.preserve_inv
      (I := fun t => (Landed S t ∧ Traced S (fun _ b => ∀ k i, b k = some i → S.steady i) t) ∧
        Posts S t) ?_ hsteps hinv ⟨⟨hland, hst⟩, h⟩
    rintro t t' ht hti ⟨⟨htl, htt⟩, htp⟩
    exact ⟨⟨landed_step hriv ht hti htl,
      traced_step (fun m r e hstart => hπ m r e hstart) ht hti htt⟩,
      posts_step hunk hsm ht hti htl htt htp⟩
  exact hall.2

end Posts

end TboxSec.Journal
