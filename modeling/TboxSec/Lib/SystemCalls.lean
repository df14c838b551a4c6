import TboxSec.Lib.Crash
import TboxSec.Lib.FileSystem

/-!
# Programs over a disk

A program reaches the disk through system calls. What the environment does to a call is an
`Event`: the call goes through, a write is cut short, the call fails with an error, or the
process is killed before it. When the events have run out every call goes through, so a
session without events is an undisturbed one.

`Ensures m d Q C`: whatever the events are, a finished run of `m` from the disk `d` meets `Q`
and a killed one leaves a disk that meets `C`. The rules follow the program: `ensures_bind`
for a sequence, `ensures_attempt` for one call, `ensures_writeAll` for a loop of writes.
-/

namespace TboxSec.FileSystem

open Crash

variable {N β : Type} [DecidableEq N] {α γ : Type}

/-- What the environment does to one system call. -/
inductive Event where
  | proceeds
  /-- A write stops after `n` bytes; any other call goes through. -/
  | short (n : ℕ)
  | fails
  /-- The process is killed before the call. -/
  | killed

/-- A disk and what the environment will do to the next calls. -/
structure Session (N β : Type) where
  disk : Disk N β
  events : List Event

/-- A program over a disk. A killed process leaves the disk. -/
abbrev Program (N β α : Type) := Prog (Session N β) (Disk N β) α

/-- Read the tree. -/
def look (f : Tree N β → α) : Program N β α := Prog.gets fun s => f s.disk.tree

/-- One system call; its value is whether it went through. -/
def attempt (op : Disk N β → Option (Disk N β)) : Program N β Bool := fun s =>
  match s.events with
  | .killed :: _ => .crashed s.disk
  | .fails :: es => .done false ⟨s.disk, es⟩
  | es =>
    match op s.disk with
    | some d => .done true ⟨d, es.tail⟩
    | none => .done false ⟨s.disk, es.tail⟩

/-- The loop of `writeAll`, over the events that are left. -/
def writeFrom (n : N) (p : Path N) :
    List Event → List β → Disk N β → Outcome (Session N β) (Disk N β) Bool
  | es, [], d => .done true ⟨d, es⟩
  | .killed :: _, _, d => .crashed d
  | .fails :: es, _, d => .done false ⟨d, es⟩
  | .short k :: es, data, d =>
    match d.write n p (data.take k) with
    | some d' => writeFrom n p es (data.drop k) d'
    | none => .done false ⟨d, es⟩
  | es, data, d =>
    match d.write n p data with
    | some d' => .done true ⟨d', es.tail⟩
    | none => .done false ⟨d, es.tail⟩

/-- Write at the end of a file, again for what a short write has left. -/
def writeAll (n : N) (p : Path N) (data : List β) : Program N β Bool := fun s =>
  writeFrom n p s.events data s.disk

/-! ### What holds whatever the events are -/

/-- Whatever the events are, a finished run of `m` from `d` meets `Q` and a killed one leaves a
disk that meets `C`. -/
def Ensures (m : Program N β α) (d : Disk N β) (Q : α → Disk N β → Prop)
    (C : Disk N β → Prop) : Prop :=
  ∀ es, Prog.wp m (fun a s => Q a s.disk) C ⟨d, es⟩

section Rules

variable {m : Program N β α} {d : Disk N β} {Q : α → Disk N β → Prop} {C : Disk N β → Prop}

omit [DecidableEq N] in
/-- A program that only returns ensures what holds of its value and the disk as it is. -/
theorem ensures_pure {a : α} : Ensures (pure a : Program N β α) d Q C ↔ Q a d :=
  ⟨fun h => h [], fun h _ => h⟩

omit [DecidableEq N] in
/-- Looking at the files is no system call: it can neither fail nor be killed. -/
theorem ensures_look {f : Tree N β → α} : Ensures (look f) d Q C ↔ Q (f d.tree) d :=
  ⟨fun h => h [], fun h _ => h⟩

omit [DecidableEq N] in
/-- **The rule of the sequence.** What the second part ensures must follow from what the first has
left, and a kill in either part must leave what is promised. -/
theorem ensures_bind {f : α → Program N β γ} {Q : γ → Disk N β → Prop}
    (h : Ensures m d (fun a d' => Ensures (f a) d' Q C) C) : Ensures (m >>= f) d Q C := by
  intro es
  refine Prog.wp_bind.mpr (Prog.wp_mono (h es) (fun a s hs => ?_) fun _ hc => hc)
  exact hs s.events

omit [DecidableEq N] in
/-- Both promises may be weakened. -/
theorem ensures_mono {Q' : α → Disk N β → Prop} {C' : Disk N β → Prop} (h : Ensures m d Q C)
    (hQ : ∀ a d', Q a d' → Q' a d') (hC : ∀ d', C d' → C' d') : Ensures m d Q' C' :=
  fun es => Prog.wp_mono (h es) (fun a s => hQ a s.disk) hC

omit [DecidableEq N] in
/-- A call goes through, or it fails and changes nothing, or the process ends before it. -/
theorem ensures_attempt {op : Disk N β → Option (Disk N β)} {Q : Bool → Disk N β → Prop}
    (hok : ∀ d', op d = some d' → Q true d') (hno : Q false d) (hC : C d) :
    Ensures (attempt op) d Q C := by
  intro es
  have hrest : ∀ es : List Event,
      Outcome.Meets (fun a (s : Session N β) => Q a s.disk) C
        (match op d with
          | some d' => .done true ⟨d', es.tail⟩
          | none => .done false ⟨d, es.tail⟩) := by
    intro es
    cases hop : op d with
    | none => exact hno
    | some d' => exact hok d' hop
  cases es with
  | nil => exact hrest []
  | cons e es =>
    cases e with
    | proceeds => exact hrest (.proceeds :: es)
    | short n => exact hrest (.short n :: es)
    | fails => exact hno
    | killed => exact hC

omit [DecidableEq N] in
/-- A call that has not gone through was made to fail, or it was impossible. -/
theorem attempt_eq_false {op : Disk N β → Option (Disk N β)} {s s' : Session N β}
    (h : attempt op s = .done false s') :
    (∃ es, s.events = .fails :: es ∧ s' = ⟨s.disk, es⟩) ∨
      (op s.disk = none ∧ s'.disk = s.disk) := by
  have hrest : ∀ es : List Event,
      (match op s.disk with
        | some d => .done true ⟨d, es.tail⟩
        | none => .done false ⟨s.disk, es.tail⟩ : Outcome (Session N β) (Disk N β) Bool) =
          .done false s' →
      op s.disk = none ∧ s'.disk = s.disk := by
    intro es hrun
    cases hop : op s.disk with
    | none =>
      rw [hop] at hrun
      cases hrun
      exact ⟨rfl, rfl⟩
    | some d =>
      rw [hop] at hrun
      cases hrun
  rw [attempt] at h
  cases hevents : s.events with
  | nil =>
    rw [hevents] at h
    exact .inr (hrest [] h)
  | cons e es =>
    rw [hevents] at h
    cases e with
    | proceeds => exact .inr (hrest (.proceeds :: es) h)
    | short n => exact .inr (hrest (.short n :: es) h)
    | fails =>
      cases h
      exact .inl ⟨es, rfl, rfl⟩
    | killed => cases h

omit [DecidableEq N] in
/-- A call that the environment makes fail answers `false` and leaves the disk as it was. -/
theorem attempt_of_fails {op : Disk N β → Option (Disk N β)} {s : Session N β} {es : List Event}
    (h : s.events = .fails :: es) : attempt op s = .done false ⟨s.disk, es⟩ := by
  rw [attempt, h]

/-- **A loop of writes** touches its file only, and when it has gone through the file has the
data at its end. The induction is on the events; a short write leaves a shorter loop. -/
theorem ensures_writeAll {n : N} {p : Path N} {data : List β} :
    Ensures (writeAll n p data) d
      (fun b d' => Disk.Touches {n :: p} d d' ∧ (b = true → ∀ a, d.tree.content (n :: p) = some a →
        d'.tree.content (n :: p) = some (a ++ data)))
      (fun d' => Disk.Touches {n :: p} d d') := by
  intro es
  change (writeFrom n p es data d).Meets _ _
  have hwrite : ∀ {data : List β} {d d' : Disk N β}, d.write n p data = some d' →
      Disk.Touches {n :: p} d d' ∧ ∀ a, d.tree.content (n :: p) = some a →
        d'.tree.content (n :: p) = some (a ++ data) := by
    intro data d d' h
    refine ⟨Disk.touches_alter h, fun a ha => ?_⟩
    obtain ⟨a', b, hnode, hnode', -⟩ := Disk.alter_eq_some h
    rw [Tree.content_of_node hnode] at ha
    cases ha
    exact Tree.content_of_node (by rw [hnode', Function.update_self])
  have hlast : ∀ (es : List Event) (data : List β) (d : Disk N β),
      Outcome.Meets (fun b (s : Session N β) => Disk.Touches {n :: p} d s.disk ∧
          (b = true → ∀ a, d.tree.content (n :: p) = some a →
            s.disk.tree.content (n :: p) = some (a ++ data)))
        (fun d' => Disk.Touches {n :: p} d d')
        (match d.write n p data with
          | some d' => .done true ⟨d', es.tail⟩
          | none => .done false ⟨d, es.tail⟩) := by
    intro es data d
    cases h : d.write n p data with
    | none => exact ⟨.refl _ _, nofun⟩
    | some d' => exact ⟨(hwrite h).1, fun _ => (hwrite h).2⟩
  induction es generalizing data d with
  | nil =>
    cases data with
    | nil => exact ⟨.refl _ _, fun _ a ha => by simpa using ha⟩
    | cons b data => exact hlast [] _ _
  | cons e es ih =>
    cases data with
    | nil => exact ⟨.refl _ _, fun _ a ha => by simpa using ha⟩
    | cons b data =>
      cases e with
      | proceeds => exact hlast (.proceeds :: es) _ _
      | fails => exact ⟨.refl _ _, nofun⟩
      | killed => exact Disk.Touches.refl _ _
      | short k =>
        rw [writeFrom.eq_def]
        dsimp only
        cases h : d.write n p ((b :: data).take k) with
        | none => exact ⟨.refl _ _, nofun⟩
        | some d' =>
          obtain ⟨htouch, hcontent⟩ := hwrite h
          refine (@ih d' ((b :: data).drop k)).mono (fun c s hs => ?_)
            fun d'' hd => htouch.trans hd
          refine ⟨htouch.trans hs.1, fun hc a ha => ?_⟩
          rw [hs.2 hc _ (hcontent a ha), List.append_assoc, List.take_append_drop]

end Rules

/-! ### Programs that stay in a relation -/

/-- However a run of `m` ends, its disk is in the relation `R` to the one it started from. -/
def Stays (R : Disk N β → Disk N β → Prop) (m : Program N β α) : Prop :=
  ∀ d, Ensures m d (fun _ d' => R d d') (R d)

section Stays

variable {R : Disk N β → Disk N β → Prop}

omit [DecidableEq N] in
/-- A program that only returns stays within every reflexive relation. -/
theorem stays_pure (hrefl : ∀ d, R d d) (a : α) : Stays R (pure a : Program N β α) :=
  fun d => ensures_pure.mpr (hrefl d)

omit [DecidableEq N] in
/-- So does a look at the files. -/
theorem stays_look (hrefl : ∀ d, R d d) (f : Tree N β → α) : Stays R (look f) :=
  fun d => ensures_look.mpr (hrefl d)

omit [DecidableEq N] in
/-- A system call stays within a relation that its operation obeys, whether it succeeds, fails or is
killed. -/
theorem stays_attempt (hrefl : ∀ d, R d d) {op : Disk N β → Option (Disk N β)}
    (hop : ∀ d d', op d = some d' → R d d') : Stays R (attempt op) :=
  fun d => ensures_attempt (fun d' h => hop d d' h) (hrefl d) (hrefl d)

omit [DecidableEq N] in
/-- Two programs that stay within a transitive relation may follow each other. -/
theorem Stays.bind (htrans : ∀ d₁ d₂ d₃, R d₁ d₂ → R d₂ d₃ → R d₁ d₃) {m : Program N β α}
    {f : α → Program N β γ} (hm : Stays R m) (hf : ∀ a, Stays R (f a)) : Stays R (m >>= f) := by
  intro d
  refine ensures_bind (ensures_mono (hm d) (fun a d₁ h₁ => ?_) fun _ h => h)
  exact ensures_mono (hf a d₁) (fun _ d₂ h₂ => htrans d d₁ d₂ h₁ h₂)
    fun d₂ h₂ => htrans d d₁ d₂ h₁ h₂

/-- A loop of writes stays in the relation that each write stays in. The induction is on the
events. -/
theorem stays_writeAll (hrefl : ∀ d, R d d) (htrans : ∀ d₁ d₂ d₃, R d₁ d₂ → R d₂ d₃ → R d₁ d₃)
    {n : N} {p : Path N} (hwrite : ∀ data d d', d.write n p data = some d' → R d d')
    (data : List β) : Stays R (writeAll n p data) := by
  intro d es
  change (writeFrom n p es data d).Meets _ _
  have hlast : ∀ (es : List Event) (data : List β) (d : Disk N β),
      Outcome.Meets (fun _ (s : Session N β) => R d s.disk) (R d)
        (match d.write n p data with
          | some d' => Outcome.done true ⟨d', es.tail⟩
          | none => .done false ⟨d, es.tail⟩) := by
    intro es data d
    cases h : d.write n p data with
    | none => exact hrefl d
    | some d' => exact hwrite data d d' h
  induction es generalizing data d with
  | nil =>
    cases data with
    | nil => exact hrefl d
    | cons b data => exact hlast [] _ _
  | cons e es ih =>
    cases data with
    | nil => exact hrefl d
    | cons b data =>
      cases e with
      | proceeds => exact hlast (.proceeds :: es) _ _
      | fails => exact hrefl d
      | killed => exact hrefl d
      | short k =>
        rw [writeFrom.eq_def]
        dsimp only
        cases h : d.write n p ((b :: data).take k) with
        | none => exact hrefl d
        | some d₁ =>
          have h₁ := hwrite _ d d₁ h
          exact (ih ((b :: data).drop k) d₁).mono (fun _ s hs => htrans _ _ _ h₁ hs)
            fun d₂ hd => htrans _ _ _ h₁ hd

end Stays

/-! ### Undisturbed runs -/

/-- Undisturbed, `m` goes from `d` to `d'` with the value `a`. -/
def Calm (m : Program N β α) (d : Disk N β) (a : α) (d' : Disk N β) : Prop :=
  m ⟨d, []⟩ = .done a ⟨d', []⟩

section Calm

variable {m : Program N β α} {d d' : Disk N β} {a : α}

omit [DecidableEq N] in
/-- Undisturbed, a program that only returns leaves the disk as it is. -/
theorem calm_pure (a : α) (d : Disk N β) : Calm (pure a) d a d := rfl

omit [DecidableEq N] in
/-- Undisturbed, a look at the files answers what it sees. -/
theorem calm_look (f : Tree N β → α) (d : Disk N β) : Calm (look f) d (f d.tree) d := rfl

omit [DecidableEq N] in
/-- Undisturbed, a system call answers whether its operation is possible, and does it then. -/
theorem calm_attempt (op : Disk N β → Option (Disk N β)) (d : Disk N β) :
    Calm (attempt op) d (op d).isSome ((op d).getD d) := by
  change attempt op ⟨d, []⟩ = _
  simp only [attempt]
  cases op d <;> rfl

omit [DecidableEq N] in
/-- Undisturbed runs follow each other. -/
theorem Calm.bind {f : α → Program N β γ} {c : γ} {d'' : Disk N β} (hm : Calm m d a d')
    (hf : Calm (f a) d' c d'') : Calm (m >>= f) d c d'' := by
  change Prog.bind m f ⟨d, []⟩ = _
  rw [Prog.bind, hm]
  exact hf

omit [DecidableEq N] in
/-- What is left of an undisturbed sequence after its first part. -/
theorem Calm.rest {f : α → Program N β γ} {c : γ} {d'' : Disk N β} (hm : Calm m d a d')
    (h : Calm (m >>= f) d c d'') : Calm (f a) d' c d'' := by
  change Prog.bind m f ⟨d, []⟩ = _ at h
  rwa [Prog.bind, hm] at h

omit [DecidableEq N] in
/-- There is one undisturbed run from each disk. -/
theorem Calm.unique {a' : α} {d'' : Disk N β} (h : Calm m d a d') (h' : Calm m d a' d'') :
    a = a' ∧ d' = d'' := by
  rw [Calm, h] at h'
  injection h' with ha hs
  exact ⟨ha, congrArg Session.disk hs⟩

omit [DecidableEq N] in
/-- What holds whatever the events are holds of the undisturbed run. -/
theorem Calm.of_ensures {Q : α → Disk N β → Prop} {C : Disk N β → Prop} (h : Calm m d a d')
    (hm : Ensures m d Q C) : Q a d' := by
  have hend := Prog.wp_done (hm []) h
  exact hend

/-- Undisturbed, `m` comes to its end from every disk. -/
def Finishes (m : Program N β α) : Prop := ∀ d, ∃ a d', Calm m d a d'

omit [DecidableEq N] in
/-- A program that only returns finishes. -/
theorem finishes_pure (a : α) : Finishes (pure a : Program N β α) :=
  fun d => ⟨a, d, calm_pure a d⟩

omit [DecidableEq N] in
/-- A look at the files finishes. -/
theorem finishes_look (f : Tree N β → α) : Finishes (look f) :=
  fun d => ⟨f d.tree, d, calm_look f d⟩

omit [DecidableEq N] in
/-- A system call finishes when it is undisturbed. -/
theorem finishes_attempt (op : Disk N β → Option (Disk N β)) : Finishes (attempt op) :=
  fun d => ⟨_, _, calm_attempt op d⟩

omit [DecidableEq N] in
/-- Programs that finish may follow each other. -/
theorem Finishes.bind {f : α → Program N β γ} (hm : Finishes m) (hf : ∀ a, Finishes (f a)) :
    Finishes (m >>= f) := by
  intro d
  obtain ⟨a, d₁, h₁⟩ := hm d
  obtain ⟨c, d₂, h₂⟩ := hf a d₁
  exact ⟨c, d₂, h₁.bind h₂⟩

end Calm

end TboxSec.FileSystem
