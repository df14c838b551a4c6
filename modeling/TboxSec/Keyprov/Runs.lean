import TboxSec.Keyprov.Refinement

/-!
# Runs of the daemon

Runs start from an empty disk. The refinement of one call is lifted to runs: an invariant of
the protocol that every call keeps, under a **step condition** on the daemon, holds at the end
of every run whose steps meet the condition (`run_refines`), and also after one more call,
together with what that call replies (`call_refines`).

Every batch in the documents was given with a request of the run (`Origin`).

* `requests` are the imports of a run, and `requestBatch` the keys that one of them asks for.
* `run_refines_in` and `run_refines` are the induction over the run; the invariant may speak of
  the run so far, so that what is committed can be traced to a request of it.
* `call_refines` is what the results about replies are read off.
* `exists_traced`: every batch that was ever committed has its origin.
-/

namespace TboxSec.Keyprov

open Canonical Crash Journal

variable {D : Deployment} {M : Set ImportRequest} {w : World} {s s' : KSys} {l : Label}
  {ls past : List Label}

/-! ### Requests -/

/-- The requests made in a run. -/
def requests (ls : List Label) : List ImportRequest := ls.filterMap (·.call.importRequest)

theorem mem_requests {q : ImportRequest} :
    q ∈ requests ls ↔ ∃ l ∈ ls, l.call.importRequest = some q :=
  List.mem_filterMap

theorem mem_requests_append {q : ImportRequest} (h : q ∈ requests past) (l : Label) :
    q ∈ requests (past ++ [l]) := by
  obtain ⟨l', hl', hq⟩ := mem_requests.mp h
  exact mem_requests.mpr ⟨l', List.mem_append_left _ hl', hq⟩

theorem mem_requests_last {q : ImportRequest} (h : l.call.importRequest = some q) :
    q ∈ requests (past ++ [l]) :=
  mem_requests.mpr ⟨l, List.mem_append_right _ (List.mem_singleton.mpr rfl), h⟩

/-- The key of one item of a request. -/
def itemInfo (D : Deployment) (domain : String) (it : WrappedKeyItem) : KeyInfo :=
  { domain
    version := it.businessKeyVersion
    keyIdDigest := textDigest D.platform.crypto it.keyId
    algorithm := it.algorithm
    validFromMs := it.validFromMs
    validToMs := it.validToMs }

/-- The batch of a request. -/
def requestBatch (D : Deployment) (q : ImportRequest) (p : String) : Option KeyInfo :=
  (q.items.find? (·.purpose == p)).map (itemInfo D q.domain)

theorem exists_item_of_requestBatch {q : ImportRequest} {p : String} {i : KeyInfo}
    (h : requestBatch D q p = some i) :
    ∃ it ∈ q.items, it.purpose = p ∧ itemInfo D q.domain it = i := by
  obtain ⟨it, hfind, hinfo⟩ := Option.map_eq_some_iff.mp h
  have hp := List.find?_some hfind
  exact ⟨it, List.mem_of_find?_eq_some hfind, by simpa using hp, hinfo⟩

/-- The items of a new record describe the batch of the request. -/
private theorem batchOf_stagedItem (domain : String) (rows : List Row) (requestId : String) :
    batchOf (rows.map (stagedItem D domain)) =
      requestBatch D ⟨requestId, domain, rows.map Prod.fst⟩ := by
  funext p
  unfold batchOf requestBatch
  induction rows with
  | nil => rfl
  | cons r rows ih =>
    simp only [List.map_cons, List.find?_cons]
    cases hp : r.1.purpose == p with
    | true =>
      have hp' : ((stagedItem D domain r).purpose == p) = true := hp
      rw [hp']
      rfl
    | false =>
      have hp' : ((stagedItem D domain r).purpose == p) = false := hp
      rw [hp']
      exact ih

/-- The record of an admitted request describes the batch of the request. -/
theorem AdmittedFor.batchOf_eq {q : ImportRequest} {a : Admitted}
    (ha : AdmittedFor D q.requestId q.domain q.items a) :
    batchOf (a.rows.map (stagedItem D a.businessDomain)) = requestBatch D q := by
  rw [batchOf_stagedItem a.businessDomain a.rows q.requestId, ha.domain, ha.items]

/-- A decision is about the request of its call. -/
private theorem decided_of_decision {d : Decision} (h : l.decision D w = some d) :
    ∃ q, l.call.importRequest = some q ∧ Decided D w q.requestId q.domain q.items d := by
  unfold Label.decision at h
  cases hl : l.call with
  | importBatch rid domain items =>
    have hreads : Reads (importDecide D l.oracle rid domain items) { w with asked := {} }
        (Decided D { w with asked := {} } rid domain items) := reads_importDecide
    obtain ⟨d', k, hrun, hd⟩ := hreads
    simp only [hl, hrun] at h
    cases h
    exact ⟨⟨rid, domain, items⟩, rfl, hd.asked w.asked⟩
  | importKl1 rid domain items context =>
    have hreads : Reads (importKl1Decide D l.oracle rid domain items context)
        { w with asked := {} } (fun r => Decided D { w with asked := {} } rid domain items r.1) :=
      reads_importKl1Decide
    obtain ⟨d', k, hrun, hd⟩ := hreads
    simp only [hl, hrun] at h
    cases h
    exact ⟨⟨rid, domain, items⟩, rfl, hd.asked w.asked⟩
  | boot | init | beginShutdown | getImportResult | getImportResultKl1 | getStatus | storeReady =>
    simp [hl] at h

/-- A new operation is for a request that passed the checks, of an initialised daemon. -/
theorem admitted_of_start {a : Admitted} (h : l.decision D w = some (.start a)) :
    ∃ q, l.call.importRequest = some q ∧
      AdmittedFor D q.requestId q.domain q.items a ∧ w.svc.importReady = true ∧
      loadJournal D.platform w.prov a.ridDigest = none := by
  obtain ⟨q, hq, hd⟩ := decided_of_decision h
  refine ⟨q, hq, ?_⟩
  generalize hdec : Decision.start a = d at hd
  cases hd with
  | refuse hstate hrc => cases hdec
  | @known a' e ha hready he =>
    exfalso
    by_cases hc : Conflicts a' e
    · rw [existingDecision_of_conflict hc] at hdec
      cases hdec
    · rcases existingDecision_cases hc with ⟨-, hd⟩ | ⟨-, hd⟩ | ⟨-, hd⟩ <;>
        rw [hd] at hdec <;> cases hdec
  | start ha hready he htime =>
    cases hdec
    exact ⟨ha, hready, he⟩

/-! ### Origins -/

/-- The batch `b` was given with a request of the run, filed under `r`. -/
def Origin (D : Deployment) (ls : List Label) (r : String) (b : String → Option KeyInfo) : Prop :=
  ∃ q ∈ requests ls, textDigest D.platform.crypto q.requestId = r ∧ b = requestBatch D q

theorem Origin.append {r : String} {b : String → Option KeyInfo} (h : Origin D past r b)
    (l : Label) : Origin D (past ++ [l]) r b := by
  obtain ⟨q, hq, hr, hb⟩ := h
  exact ⟨q, mem_requests_append hq l, hr, hb⟩

/-- A request that is taken up is a request of the call. -/
private theorem origin_of_start {m : KDoc} {r : String} {e : BusinessKeyJournalEntry}
    (h : (policyAt D w l s).start m r e) : Origin D (past ++ [l]) r ((scheme D).batch e) := by
  obtain ⟨-, a, now, hdec, rfl, rfl⟩ := h
  obtain ⟨q, hq, ha, -⟩ := admitted_of_start hdec
  exact ⟨q, mem_requests_last hq, by rw [ha.rid, ha.requestId], ha.batchOf_eq⟩

/-! ### Invariants over runs -/

theorem Sim.inv (h : Sim D M w s) : Inv (scheme D) s := by
  obtain ⟨K, h⟩ := h
  exact h.inv

section Invariants

variable {c : World → Label → Prop} {I : List Label → KSys → Prop}

/-- **Invariants of the protocol hold over runs** whose requests are in `M`. -/
theorem run_refines_in (hM : ∀ q ∈ requests ls, q ∈ M) (h₀ : I [] Sys.fresh)
    (hstep : ∀ past w s s' l, Sim D M w s → I past s → c w l →
      Steps (scheme D) (policyAt D w l s) s s' → I (past ++ [l]) s')
    (hc : (daemon D).Along c {} ls) : ∃ s, Sim D M ((daemon D).run {} ls) s ∧ I ls s := by
  have hmade : (daemon D).Along
      (fun w l => c w l ∧ ∀ q, l.call.importRequest = some q → q ∈ M) {} ls :=
    Machine.along_mono _ (fun _ l hl hcl => ⟨hcl, fun q hq =>
      hM q (mem_requests.mpr ⟨l, hl, hq⟩)⟩) hc
  refine Machine.run_history (M := daemon D) (I := fun past w => ∃ s, Sim D M w s ∧ I past s)
    ⟨Sys.fresh, sim_fresh, h₀⟩ ?_ hmade
  rintro past w l ⟨s, hsim, hI⟩ ⟨hcl, hq⟩
  obtain ⟨s', hpost⟩ := callStep_refines hsim l hq
  exact ⟨s', hpost.sim, hstep past w s s' l hsim hI hcl hpost.steps⟩

/-- **Invariants of the protocol hold over runs.** -/
theorem run_refines (h₀ : I [] Sys.fresh)
    (hstep : ∀ past w s s' l, Sim D .univ w s → I past s → c w l →
      Steps (scheme D) (policyAt D w l s) s s' → I (past ++ [l]) s')
    (hc : (daemon D).Along c {} ls) : ∃ s, Sim D .univ ((daemon D).run {} ls) s ∧ I ls s :=
  run_refines_in (fun _ _ => Set.mem_univ _) h₀ hstep hc

/-- **Invariants of the protocol hold after every call of a run**, with its reply. -/
theorem call_refines (h₀ : I [] Sys.fresh)
    (hstep : ∀ past w s s' l, Sim D .univ w s → I past s → c w l →
      Steps (scheme D) (policyAt D w l s) s s' → I (past ++ [l]) s')
    (hc : (daemon D).Along c {} (ls ++ [l])) :
    ∃ s s', Sim D .univ ((daemon D).run {} ls) s ∧ I ls s ∧
      CallPost D .univ ((daemon D).run {} ls) l s s' (callStep D ((daemon D).run {} ls) l) ∧
      I (ls ++ [l]) s' := by
  rw [Machine.along_append] at hc
  obtain ⟨s, hsim, hI⟩ := run_refines h₀ hstep hc.1
  obtain ⟨s', hpost⟩ := callStep_refines hsim l fun _ _ => Set.mem_univ _
  exact ⟨s, s', hsim, hI, hpost, hstep _ _ _ _ l hsim hI hc.2.1 hpost.steps⟩

end Invariants

/-- The origin of every batch, over one call. -/
private theorem traced_call (hsim : Sim D M w s) (h : Traced (scheme D) (Origin D past) s)
    (hsteps : Steps (scheme D) (policyAt D w l s) s s') :
    Traced (scheme D) (Origin D (past ++ [l])) s' :=
  traced_steps (fun _ _ _ hπ => origin_of_start hπ) hsteps hsim.inv
    (h.mono fun _ _ hO => hO.append l)

/-- **Every batch has its origin in the run.** -/
theorem exists_traced (D : Deployment) (ls : List Label) :
    ∃ s, Sim D .univ ((daemon D).run {} ls) s ∧ Traced (scheme D) (Origin D ls) s :=
  run_refines (c := fun _ _ => True) (I := fun past => Traced (scheme D) (Origin D past))
    traced_fresh
    (fun _ _ _ _ _ hsim h _ hsteps => traced_call hsim h hsteps) (Machine.along_true _ _ _)

end TboxSec.Keyprov
