import TboxSec.CertStore.Reading
import TboxSec.Lib.Loop

/-!
# The search for a generation as a loop

From `CURRENT` on, `openAndRecover` follows links that are stored in manifests. `Platform.round`
is one round of that search and `loop (P.round t)` what the search computes, without a bound on
the number of rounds.

* `Platform.search_eq_iff`, `Platform.search_eq_endless_iff`: `Platform.search` makes enough rounds
  to know its result, and says `endless` just where the links come back to a generation.
* `Platform.search_congr`: the search depends only on the generations that it comes to.

A program with a bound that depends on the input, like `search` with the number of files, is only
as good as the bound; this is the module that shows it to be enough. Links are kept apart from
files: `Links` is one step of the search from a generation that does not load, `Reaches` any number
of them.
-/

namespace TboxSec.CertStore

open FileSystem Relation

namespace Platform

variable {P : Platform} {t t' : Files} {p q ptr : Bytes}

/-- One round of the search: what it ends with, or the next id. -/
def round (P : Platform) (t : Files) (p : Bytes) : Search ⊕ Bytes :=
  match P.loadGeneration t p with
  | none => .inl .threw
  | some (some g) => .inl (.found g)
  | some none =>
    match P.previousOf t p with
    | none => .inl .threw
    | some next => if next = [] then .inl .exhausted else .inr next

/-- The search goes on from the id `p` to the id `q`: the generation `p` does not load, and its
manifest names `q` as the one before. -/
structure Links (P : Platform) (t : Files) (p q : Bytes) : Prop where
  load : P.loadGeneration t p = some none
  previous : P.previousOf t p = some q
  nonempty : q ≠ []

/-- From the id `p` the search comes to the id `q`. -/
def Reaches (P : Platform) (t : Files) : Bytes → Bytes → Prop := ReflTransGen (P.Links t)

private theorem goes_round_iff : Goes (P.round t) p q ↔ P.Links t p q := by
  rw [Goes, round]
  constructor
  · intro h
    split at h
    · cases h
    · cases h
    · rename_i hload
      split at h
      · cases h
      · rename_i next hprev
        split_ifs at h with hnext
        cases h
        exact ⟨hload, hprev, hnext⟩
  · intro h
    simp only [h.load, h.previous, if_neg h.nonempty]

theorem goes_round : Goes (P.round t) = P.Links t :=
  funext fun _ => funext fun _ => propext goes_round_iff

private theorem round_ne_endless : P.round t p ≠ .inl .endless := by
  rw [round]
  split
  · exact nofun
  · exact nofun
  · split
    · exact nofun
    · split_ifs <;> exact nofun

/-! ### The rounds of the fall-back -/

private theorem fallBack_eq_follow {fuel : ℕ} (hp : p ≠ []) :
    P.fallBack t (fuel + 1) p = (follow (P.round t) fuel p).getD .endless := by
  induction fuel generalizing p with
  | zero =>
    rw [fallBack, if_neg hp, follow, round]
    cases P.loadGeneration t p with
    | none => rfl
    | some r =>
      cases r with
      | some g => rfl
      | none =>
        cases P.previousOf t p with
        | none => rfl
        | some next =>
          dsimp only
          rw [fallBack]
          split_ifs <;> rfl
  | succ fuel ih =>
    rw [fallBack, if_neg hp, follow, round]
    cases P.loadGeneration t p with
    | none => rfl
    | some r =>
      cases r with
      | some g => rfl
      | none =>
        cases P.previousOf t p with
        | none => rfl
        | some next =>
          dsimp only
          by_cases hnext : next = []
          · rw [hnext, fallBack]
            rfl
          · rw [if_neg hnext, Sum.elim_inr]
            exact ih hnext

private theorem search_eq_follow :
    P.search t ptr = (follow (P.round t) t.paths.length ptr).getD .endless := by
  have hrounds : P.search t ptr =
      ((P.round t ptr).elim some fun next => some (P.fallBack t t.paths.length next)).getD
        .endless := by
    rw [search, round]
    cases P.loadGeneration t ptr with
    | none => rfl
    | some r =>
      cases r with
      | some g => rfl
      | none =>
        cases P.previousOf t ptr with
        | none => rfl
        | some next =>
          dsimp only
          split_ifs with hnext
          · rw [hnext]
            cases t.paths.length <;> rfl
          · rfl
  rw [hrounds]
  cases hround : P.round t ptr with
  | inl r => rw [follow_of_stop hround, Sum.elim_inl]
  | inr next =>
    rw [Sum.elim_inr, Option.getD_some]
    have hnext := (goes_round_iff.mp hround).nonempty
    cases t.paths.length with
    | zero =>
      rw [fallBack, if_neg hnext, follow, hround]
      rfl
    | succ n => rw [fallBack_eq_follow hnext, follow_succ_of_goes hround]

/-! ### Enough rounds -/

/-- The manifest file of an id. -/
def manifestPath (P : Platform) (t : Files) (p : Bytes) : Option (Path Bytes) :=
  t.walk P.generationsDir (hops (dirJoin p kManifestName))

/-- A link is in a manifest file. -/
private theorem Links.manifestPath_mem (h : P.Links t p q) :
    P.manifestPath t p ∈ t.paths.map some := by
  have hnode : (P.manifestPath t p).bind t.node ≠ none := by
    intro hnone
    have hread : P.readFile t (dirJoin p kManifestName) = some [] := by
      rw [manifestPath] at hnone
      rw [readFile, hnone]
      rfl
    have hprev := h.previous
    rw [previousOf, hread] at hprev
    exact h.nonempty (Option.some.inj hprev).symm
  obtain ⟨v, hv⟩ := Option.ne_none_iff_exists'.mp hnode
  obtain ⟨path, hpath, hsome⟩ := Option.bind_eq_some_iff.mp hv
  rw [hpath]
  exact List.mem_map_of_mem (t.covers path (Option.isSome_of_eq_some hsome))

/-- Ids with one manifest file have one link. -/
private theorem previousOf_congr (h : P.manifestPath t p = P.manifestPath t q) :
    P.previousOf t p = P.previousOf t q := by
  have hread : P.readFile t (dirJoin p kManifestName) = P.readFile t (dirJoin q kManifestName) := by
    rw [readFile, readFile]
    rw [manifestPath, manifestPath] at h
    rw [h]
  rw [previousOf, previousOf, hread]

private theorem links_congr {p' q' : Bytes} (h : P.Links t p q) (h' : P.Links t p' q')
    (hpath : P.manifestPath t p = P.manifestPath t p') : q = q' := by
  have hprev := h.previous
  rw [previousOf_congr hpath, h'.previous] at hprev
  exact (Option.some.inj hprev).symm

/-- What the search ends with, if it ends. -/
theorem search_eq_iff {r : Search} (hr : r ≠ .endless) :
    P.search t ptr = r ↔ r ∈ loop (P.round t) ptr := by
  have hfollow := @follow_eq_some_iff _ _ _ (P.round t) ptr r _ (P.manifestPath t)
    (t.paths.map some) (fun _ _ h => (goes_round_iff.mp h).manifestPath_mem)
    fun _ _ _ _ h h' => links_congr (goes_round_iff.mp h) (goes_round_iff.mp h')
  rw [List.length_map] at hfollow
  rw [search_eq_follow, ← hfollow]
  cases follow (P.round t) t.paths.length ptr with
  | none => exact iff_of_false (fun h => hr h.symm) nofun
  | some r' => rw [Option.getD_some, Option.some_inj]

/-- **The endless search**: the links come back to a generation. -/
theorem search_eq_endless_iff :
    P.search t ptr = .endless ↔ ∃ p, P.Reaches t ptr p ∧ TransGen (P.Links t) p p := by
  have hfollow := @follow_eq_none_iff _ _ _ (P.round t) ptr _ (P.manifestPath t)
    (t.paths.map some) (fun _ _ h => (goes_round_iff.mp h).manifestPath_mem)
    fun _ _ _ _ h h' => links_congr (goes_round_iff.mp h) (goes_round_iff.mp h')
  rw [List.length_map, goes_round] at hfollow
  rw [search_eq_follow, Reaches, ← hfollow]
  cases hrounds : follow (P.round t) t.paths.length ptr with
  | none => exact iff_of_true rfl rfl
  | some r =>
    refine iff_of_false (fun h => ?_) nofun
    rw [Option.getD_some] at h
    obtain ⟨b, -, hb⟩ := exists_stop (mem_loop_of_follow hrounds)
    exact round_ne_endless (hb.trans (congrArg Sum.inl h))

/-- An endless search is a loop that computes nothing. -/
private theorem search_eq_endless_iff_not_dom :
    P.search t ptr = .endless ↔ ¬ (loop (P.round t) ptr).Dom := by
  constructor
  · intro h
    obtain ⟨p, hreach, hcycle⟩ := search_eq_endless_iff.mp h
    rw [Reaches, ← goes_round] at hreach
    rw [← goes_round] at hcycle
    rw [loop_eq_of_reaches hreach]
    exact not_dom_of_cycle hcycle
  · intro h
    by_contra hne
    exact h (Part.dom_iff_mem.mpr ⟨_, (search_eq_iff hne).mp rfl⟩)

/-- What a search ends with, it ends with at a generation that it comes to. -/
theorem exists_round_of_search {r : Search} (hr : r ≠ .endless) (h : P.search t ptr = r) :
    ∃ p, P.Reaches t ptr p ∧ P.round t p = .inl r := by
  obtain ⟨p, hreach, hround⟩ := exists_stop ((search_eq_iff hr).mp h)
  rw [goes_round] at hreach
  exact ⟨p, hreach, hround⟩

/-- The search depends only on the generations that it comes to. -/
theorem search_congr
    (h : ∀ p, P.Reaches t ptr p →
      P.loadGeneration t' p = P.loadGeneration t p ∧ P.previousOf t' p = P.previousOf t p) :
    P.search t' ptr = P.search t ptr := by
  have hloop : loop (P.round t') ptr = loop (P.round t) ptr := by
    refine loop_congr fun p hp => ?_
    rw [goes_round] at hp
    rw [round, round, (h p hp).1, (h p hp).2]
  by_cases hend : P.search t ptr = .endless
  · rw [hend, search_eq_endless_iff_not_dom, hloop, ← search_eq_endless_iff_not_dom, hend]
  · rw [search_eq_iff hend, hloop, ← search_eq_iff hend]

end Platform

end TboxSec.CertStore
