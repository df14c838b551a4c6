import Mathlib.Data.List.Induction
import TboxSec.Lib.Separated

/-!
# The first word in a text

A search that tries to read a word at every place of a text, from the left, and is content with
the first one that it finds. `ReadsWords` says what it needs of the reader: at one place there
is at most one word, and it is found.

Where the words contain no separator, a word that is found lies inside one of the pieces between
the separators, and need not be all of it.

* `of_search`: the word that is found, and that no word begins before it.
* `search_isSome`: a text with a word in it is not searched in vain.
* `whole_iff`: the word is a whole piece exactly when the first piece with a word in it is one,
  and is not the piece before the first separator.
-/

namespace TboxSec

universe u

variable {α : Type u}

/-- A word in a text. -/
structure Found (α : Type u) where
  before : List α
  hit : List α
  behind : List α
  deriving DecidableEq

namespace Leftmost

/-- The leftmost place at which `front` reads a word. -/
def search (front : List α → Option (List α)) : List α → Option (Found α)
  | [] => none
  | c :: s =>
    match front (c :: s) with
    | some m => some ⟨[], m, (c :: s).drop m.length⟩
    | none => (search front s).map fun f => { f with before := c :: f.before }

/-- `front` reads the words that begin a text, of which there is at most one. -/
structure ReadsWords (U : List α → Prop) (front : List α → Option (List α)) : Prop where
  ne_nil : ¬ U []
  front_iff : ∀ s m, front s = some m ↔ U m ∧ m <+: s

/-- There is a word in the text. -/
def HasWord (U : List α → Prop) (s : List α) : Prop := ∃ x u y, U u ∧ s = x ++ u ++ y

variable {U : List α → Prop} {front : List α → Option (List α)} {s : List α} {f : Found α}
  {sep : α}

private theorem ReadsWords.word_ne_nil (h : ReadsWords U front) {u : List α} (hu : U u) :
    u ≠ [] := by
  rintro rfl
  exact h.ne_nil hu

/-- Two words that begin one text are the same. -/
theorem ReadsWords.unique (h : ReadsWords U front) {u v : List α} (hu : U u) (hv : U v)
    (hus : u <+: s) (hvs : v <+: s) : u = v := by
  have hread := (h.front_iff s u).mpr ⟨hu, hus⟩
  rw [(h.front_iff s v).mpr ⟨hv, hvs⟩] at hread
  exact (Option.some.inj hread).symm

/-- **What is found**: a word, and no word begins before it. -/
theorem of_search (h : ReadsWords U front) (hs : search front s = some f) :
    s = f.before ++ f.hit ++ f.behind ∧ U f.hit ∧
      ∀ x u y, U u → s = x ++ u ++ y → f.before.length ≤ x.length := by
  induction s generalizing f with
  | nil => exact nomatch hs
  | cons c s ih =>
    rw [search] at hs
    cases hfront : front (c :: s) with
    | some m =>
      rw [hfront] at hs
      obtain rfl := Option.some.inj hs
      obtain ⟨hm, hfront⟩ := (h.front_iff _ _).mp hfront
      refine ⟨?_, hm, fun x _ _ _ _ => Nat.zero_le _⟩
      obtain ⟨rest, hrest⟩ := hfront
      rw [← hrest, List.drop_left]
      rfl
    | none =>
      rw [hfront] at hs
      obtain ⟨g, hg, rfl⟩ := Option.map_eq_some_iff.mp hs
      obtain ⟨hsplit, hhit, hfirst⟩ := ih hg
      refine ⟨by rw [hsplit]; rfl, hhit, fun x u y hu heq => ?_⟩
      cases x with
      | nil =>
        -- a word at the front would have been read
        rw [List.nil_append] at heq
        have hread := (h.front_iff (c :: s) u).mpr ⟨hu, heq ▸ List.prefix_append u y⟩
        rw [hfront] at hread
        exact nomatch hread
      | cons d x =>
        obtain ⟨rfl, htail⟩ := List.cons_eq_cons.mp heq
        exact Nat.succ_le_succ (hfirst x u y hu htail)

/-- **Nothing is overlooked.** -/
theorem search_isSome (h : ReadsWords U front) (hs : HasWord U s) :
    (search front s).isSome = true := by
  induction s with
  | nil =>
    obtain ⟨x, u, y, hu, heq⟩ := hs
    have hnil : u = [] := by simp_all
    exact absurd hnil (h.word_ne_nil hu)
  | cons c s ih =>
    rw [search]
    cases hfront : front (c :: s) with
    | some m => rfl
    | none =>
      obtain ⟨x, u, y, hu, heq⟩ := hs
      cases x with
      | nil =>
        have hread := (h.front_iff (c :: s) u).mpr ⟨hu, heq ▸ List.prefix_append u y⟩
        rw [hfront] at hread
        exact nomatch hread
      | cons d x =>
        obtain ⟨rfl, htail⟩ := List.cons_eq_cons.mp heq
        have hrest := ih ⟨x, u, y, hu, htail⟩
        simpa using hrest

private theorem hasWord_of_search (h : ReadsWords U front) (hs : search front s = some f) :
    HasWord U s :=
  ⟨f.before, f.hit, f.behind, (of_search h hs).2.1, (of_search h hs).1⟩

theorem search_eq_none_iff (h : ReadsWords U front) : search front s = none ↔ ¬ HasWord U s := by
  refine ⟨fun hnone hword => ?_, fun hno => ?_⟩
  · have hsome := search_isSome h hword
    rw [hnone] at hsome
    exact nomatch hsome
  · cases hs : search front s with
    | none => rfl
    | some f => exact absurd (hasWord_of_search h hs) hno

/-! ### Pieces -/

/-- `a` is nothing or ends with the separator. -/
def EndsAt (sep : α) (a : List α) : Prop := a = [] ∨ ∃ a', a = a' ++ [sep]

/-- `b` is nothing or begins with the separator. -/
def BeginsAt (sep : α) (b : List α) : Prop := b = [] ∨ ∃ b', b = sep :: b'

/-- A piece of a text between separators, with what is before and behind it. -/
structure Piece (sep : α) (s a piece b : List α) : Prop where
  split : s = a ++ piece ++ b
  left : EndsAt sep a
  inner : sep ∉ piece
  right : BeginsAt sep b

/-- A piece behind a separator. -/
def Component (sep : α) (s e : List α) : Prop := ∃ a b, a ≠ [] ∧ Piece sep s a e b

/-- The word that was found is a whole piece behind a separator. -/
def Whole (sep : α) (f : Found α) : Prop := (∃ p, f.before = p ++ [sep]) ∧ BeginsAt sep f.behind

/-- The text after the last separator. -/
private theorem exists_endsAt (sep : α) (l : List α) :
    ∃ a x, l = a ++ x ∧ EndsAt sep a ∧ sep ∉ x := by
  induction l using List.reverseRecOn with
  | nil => exact ⟨[], [], rfl, .inl rfl, List.not_mem_nil⟩
  | append_singleton l c ih =>
    by_cases hc : c = sep
    · exact ⟨l ++ [c], [], (List.append_nil _).symm, .inr ⟨l, by rw [hc]⟩, List.not_mem_nil⟩
    · obtain ⟨a, x, rfl, ha, hx⟩ := ih
      refine ⟨a, x ++ [c], List.append_assoc .., ha, fun hmem => ?_⟩
      rcases List.mem_append.mp hmem with hmem | hmem
      · exact hx hmem
      · exact hc (List.mem_singleton.mp hmem).symm

/-- The text up to the first separator. -/
private theorem exists_beginsAt (sep : α) (l : List α) :
    ∃ y b, l = y ++ b ∧ sep ∉ y ∧ BeginsAt sep b := by
  induction l with
  | nil => exact ⟨[], [], rfl, List.not_mem_nil, .inl rfl⟩
  | cons c l ih =>
    by_cases hc : c = sep
    · exact ⟨[], c :: l, rfl, List.not_mem_nil, .inr ⟨l, by rw [hc]⟩⟩
    · obtain ⟨y, b, rfl, hy, hb⟩ := ih
      refine ⟨c :: y, b, rfl, fun hmem => ?_, hb⟩
      rcases List.mem_cons.mp hmem with heq | hmem
      · exact hc heq.symm
      · exact hy hmem

/-- Two pieces that begin together are the same. -/
private theorem Piece.eq_of_left {a p b q r : List α} (hp : Piece sep s a p b)
    (hq : Piece sep s a q r) :
    p = q := by
  have hsplit : p ++ b = q ++ r := by
    have h := hp.split.symm.trans hq.split
    rwa [List.append_assoc, List.append_assoc, List.append_cancel_left_eq] at h
  rcases hp.right with rfl | ⟨b', rfl⟩ <;> rcases hq.right with rfl | ⟨r', rfl⟩
  · simpa using hsplit
  · rw [List.append_nil] at hsplit
    exact absurd (hsplit ▸ by simp) hp.inner
  · rw [List.append_nil] at hsplit
    exact absurd (hsplit ▸ by simp) hq.inner
  · exact (sep_inj_left hp.inner hq.inner hsplit).1

/-- A text that ends with the separator has it in every end that is not empty. -/
private theorem EndsAt.sep_mem {a z : List α} (h : EndsAt sep (a ++ z)) (hz : z ≠ []) :
    sep ∈ z := by
  obtain ⟨z', c, rfl⟩ := (List.eq_nil_or_concat z).resolve_left hz
  rcases h with hnil | ⟨a', heq⟩
  · simp at hnil
  · rw [List.concat_eq_append, ← List.append_assoc] at heq
    have hc : [c] = [sep] := (List.append_inj' heq rfl).2
    simp [List.singleton_inj.mp hc]

/-- The piece that the first word begins is the word's, if the word is a piece. -/
private theorem left_eq_before (h : ReadsWords U front) (hs : search front s = some f)
    (hhit : Piece sep s f.before f.hit f.behind) {a piece b : List α}
    (hpiece : Piece sep s a piece b) (hno : ¬ HasWord U a) (hword : HasWord U piece) :
    a = f.before := by
  obtain ⟨hsplit, hhitword, hfirst⟩ := of_search h hs
  obtain ⟨x, u, y, hu, rfl⟩ := hword
  have heq := hpiece.split.symm.trans hsplit
  rw [List.append_assoc, List.append_assoc f.before, List.append_eq_append_iff] at heq
  rcases heq with ⟨z, hbefore, htail⟩ | ⟨z, ha, htail⟩
  · -- the word begins behind the front of the piece, and no separator stands between the two
    by_contra hne
    have hz : z ≠ [] := fun hz => hne (by rw [hbefore, hz, List.append_nil])
    have hsep : sep ∈ z := (hbefore ▸ hhit.left).sep_mem hz
    have hle := hfirst (a ++ x) u (y ++ b) hu (by
      rw [hpiece.split]
      simp only [List.append_assoc])
    rw [hbefore, List.length_append, List.length_append] at hle
    have hfront : z <+: x ++ u ++ y := by
      have hpart : z <+: x ++ u ++ y ++ b := htail ▸ List.prefix_append _ _
      refine List.prefix_of_prefix_length_le hpart (List.prefix_append _ _) ?_
      simp only [List.length_append]
      omega
    exact hpiece.inner (hfront.subset hsep)
  · -- the piece begins behind the front of the word, so the word stands before it
    by_contra hne
    have hz : z ≠ [] := fun hz => hne (by rw [ha, hz, List.append_nil])
    have hsep : sep ∈ z := (ha ▸ hpiece.left).sep_mem hz
    rcases List.prefix_or_prefix_of_prefix (List.prefix_append f.hit f.behind)
      (htail ▸ List.prefix_append z _) with hfront | hfront
    · obtain ⟨rest, rfl⟩ := hfront
      exact hno ⟨f.before, f.hit, rest, hhitword, by rw [ha, List.append_assoc]⟩
    · exact hhit.inner (hfront.subset hsep)

/-- **Whole words.** The word that is found is a whole piece behind a separator exactly when the
first piece that has a word in it is a word and does not begin the text. -/
theorem whole_iff (h : ReadsWords U front) (hsep : ∀ u, U u → sep ∉ u)
    (hs : search front s = some f) :
    Whole sep f ↔ ∀ a piece b, Piece sep s a piece b → ¬ HasWord U a → HasWord U piece →
      a ≠ [] ∧ U piece := by
  obtain ⟨hsplit, hhit, hfirst⟩ := of_search h hs
  constructor
  · rintro ⟨⟨p, hp⟩, hbehind⟩ a piece b hpiece hno hword
    have hfound : Piece sep s f.before f.hit f.behind :=
      ⟨hsplit, .inr ⟨p, hp⟩, hsep _ hhit, hbehind⟩
    obtain rfl := left_eq_before h hs hfound hpiece hno hword
    obtain rfl := hpiece.eq_of_left hfound
    exact ⟨by rw [hp]; exact List.append_ne_nil_of_right_ne_nil _ (List.cons_ne_nil _ _), hhit⟩
  · intro hall
    obtain ⟨a, x, hbefore, ha, hx⟩ := exists_endsAt sep f.before
    obtain ⟨y, b, hbehind, hy, hb⟩ := exists_beginsAt sep f.behind
    -- the piece around the word
    have hpiece : Piece sep s a (x ++ f.hit ++ y) b := by
      refine ⟨by rw [hsplit, hbefore, hbehind]; simp only [List.append_assoc], ha, ?_, hb⟩
      simp only [List.mem_append, not_or]
      exact ⟨⟨hx, hsep _ hhit⟩, hy⟩
    have hno : ¬ HasWord U a := by
      rintro ⟨x', u, y', hu, rfl⟩
      have hle := hfirst x' u (y' ++ x ++ f.hit ++ f.behind) hu (by
        rw [hsplit, hbefore]
        simp only [List.append_assoc])
      have hpos := List.length_pos_iff.mpr (h.word_ne_nil hu)
      rw [hbefore] at hle
      simp only [List.length_append] at hle
      omega
    obtain ⟨hne, hword⟩ := hall a _ b hpiece hno ⟨x, f.hit, y, hhit, rfl⟩
    -- the piece is a word, so no word begins before it, and it is the word that was found
    have hle := hfirst a _ b hword hpiece.split
    rw [hbefore, List.length_append] at hle
    obtain rfl : x = [] := List.length_eq_zero_iff.mp (by omega)
    rw [List.append_nil] at hbefore
    have hsame : f.hit = [] ++ f.hit ++ y :=
      h.unique hhit hword (by simp) (List.prefix_refl _)
    obtain rfl : y = [] := by simpa using hsame
    rw [List.nil_append] at hbehind
    exact ⟨hbefore ▸ ha.resolve_left hne, hbehind ▸ hb⟩

end Leftmost

end TboxSec
