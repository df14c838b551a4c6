import Mathlib.Data.List.TakeWhile
import TboxSec.Canonical.Encoding
import TboxSec.Lib.Ascii
import TboxSec.Lib.Leftmost
import TboxSec.Tls.Provider

/-!
# The identity of a caller

`SystemdPeerCredentialResolver` finds the unit of the calling process in its cgroups: it takes
the first line of `/proc/<pid>/cgroup` in which the expression `[a-zA-Z0-9_@:-]+\.service` finds
something, and what it finds there first. Access to the credentials and to the business keys is
decided by this name.

The expression is not anchored, and the name of a unit may hold characters that are not in its
class, the dot among them. So what is found can be the end of the name, or a name that stands
before other text.

* `isUnit_iff_front`: what the expression matches, and the reader that matches it.
* `WholeIdentity`: the name is the whole name of a unit of the process, and so access is decided
  by such a name.
* `peer_identity_whole_iff`: the contents for which this holds.
-/

namespace TboxSec.Tls

open Ascii Canonical Leftmost

/-! ### The expression -/

/-- The class `[a-zA-Z0-9_@:-]`. -/
def isUnitChar (c : UInt8) : Bool :=
  (0x61 ≤ c && c ≤ 0x7A) || (0x41 ≤ c && c ≤ 0x5A) || (0x30 ≤ c && c ≤ 0x39) || c = 0x5F ||
    c = 0x40 || c = 0x3A || c = 0x2D

/-- `.service`. -/
def dotService : Bytes := textBytes ".service"

/-- The texts that the expression matches. -/
def IsUnit (m : Bytes) : Prop :=
  ∃ run, run ≠ [] ∧ (∀ c ∈ run, isUnitChar c = true) ∧ m = run ++ dotService

/-- The match at the front of a text: as many characters of the class as there are, and
`.service` behind them. Fewer characters would not do, because no dot is in the class. -/
def unitAt (s : Bytes) : Option Bytes :=
  if s.takeWhile isUnitChar ≠ [] ∧ dotService <+: s.dropWhile isUnitChar then
    some (s.takeWhile isUnitChar ++ dotService)
  else none

private theorem dotService_eq : dotService = 0x2E :: dotService.tail := by decide

/-- The characters before `.service` are told from it. -/
private theorem takeWhile_unit {run : Bytes} (rest : Bytes) (h : ∀ c ∈ run, isUnitChar c = true) :
    (run ++ (dotService ++ rest)).takeWhile isUnitChar = run ∧
      (run ++ (dotService ++ rest)).dropWhile isUnitChar = dotService ++ rest := by
  have hdot : isUnitChar 0x2E = false := by decide
  rw [dotService_eq, List.cons_append, List.takeWhile_append_of_pos h,
    List.dropWhile_append_of_pos h, List.takeWhile_cons_of_neg (by simp [hdot]),
    List.dropWhile_cons_of_neg (by simp [hdot]), List.append_nil]
  exact ⟨rfl, rfl⟩

/-- The reader reads what the expression matches. -/
private theorem readsWords_unitAt : ReadsWords IsUnit unitAt where
  ne_nil := by
    rintro ⟨run, -, -, heq⟩
    have hnil : dotService = [] := (List.append_eq_nil_iff.mp heq.symm).2
    exact absurd hnil (by decide)
  front_iff s m := by
    constructor
    · intro h
      rw [unitAt] at h
      split_ifs at h with hread
      obtain rfl := Option.some.inj h
      obtain ⟨hne, rest, hrest⟩ := hread
      refine ⟨⟨_, hne, fun c hc => List.mem_takeWhile_imp hc, rfl⟩, rest, ?_⟩
      rw [List.append_assoc, hrest, List.takeWhile_append_dropWhile]
    · rintro ⟨⟨run, hne, hrun, rfl⟩, rest, rfl⟩
      obtain ⟨htake, hdrop⟩ := takeWhile_unit rest hrun
      rw [unitAt, List.append_assoc, htake, hdrop, if_pos ⟨hne, List.prefix_append _ _⟩]

private theorem slash_notMem_of_isUnit {m : Bytes} (h : IsUnit m) : slash ∉ m := by
  obtain ⟨run, -, hrun, rfl⟩ := h
  intro hmem
  rcases List.mem_append.mp hmem with hmem | hmem
  · exact absurd (hrun _ hmem) (by decide)
  · exact absurd hmem (by decide)

/-! ### Resolving -/

/-- The lines that `std::getline` gives. -/
def getLines : Bytes → List Bytes
  | [] => []
  | c :: content =>
    if c = 0x0A then [] :: getLines content
    else
      match getLines content with
      | [] => [[c]]
      | line :: lines => (c :: line) :: lines

/-- What is found in the first line in which something is found. -/
def firstUnit (content : Bytes) : Option (Found UInt8) :=
  (getLines content).findSome? (search unitAt)

/-- The name that was found, as a text. -/
def unitName (m : Bytes) : String := String.ofList (m.map fun c => Char.ofNat c.toNat)

/-- `SystemdPeerCredentialResolver::resolve`: `SO_PEERCRED` may fail, and the file may not open. -/
def resolve (peercred : Bool) (cgroup : Option Bytes) : PeerIdentity :=
  if peercred then
    match cgroup.bind firstUnit with
    | none => { valid := true }
    | some f => { valid := true, serviceName := unitName f.hit }
  else {}

/-- The check of `handle_get_business_key_status`. -/
def businessKeyPeerAllowed (peerService : String) (caller : PeerIdentity) : Bool :=
  caller.valid && caller.serviceName = peerService

/-! ### Whole names -/

/-- A line of the file has the text as a component of its path. -/
def HasComponent (content e : Bytes) : Prop := ∃ line ∈ getLines content, Component slash line e

/-- **What the name of a caller is to be**: a whole component of the path of one of its cgroups,
where the expression has found it; so who is let in by its name has a cgroup with that name. -/
structure WholeIdentity (content : Bytes) : Prop where
  whole : ∀ f, firstUnit content = some f → Whole slash f
  component : ∀ peercred, (resolve peercred (some content)).serviceName ≠ "" →
    HasComponent content (textBytes (resolve peercred (some content)).serviceName)
  credential : ∀ (P : TlsCredentialProvider) (profile : String) peercred,
    P.isAuthorized profile (resolve peercred (some content)) = true →
      ∃ ps, P.profiles.find? profile = some ps ∧
        HasComponent content (textBytes ps.config.peerService)
  businessKey : ∀ peerService peercred, peerService ≠ "" →
    businessKeyPeerAllowed peerService (resolve peercred (some content)) = true →
      HasComponent content (textBytes peerService)

/-- Between its slashes, the first piece of the first line with a unit in it is a unit and
nothing else, and is not the text before the first slash. -/
def FirstUnitWhole (content : Bytes) : Prop :=
  ∀ before line behind, getLines content = before ++ line :: behind →
    (∀ l ∈ before, ¬ HasWord IsUnit l) →
      ∀ a piece b, Piece slash line a piece b → ¬ HasWord IsUnit a → HasWord IsUnit piece →
        a ≠ [] ∧ IsUnit piece

/-- The line in which something was found first. -/
private theorem firstUnit_eq_some_iff {content : Bytes} {f : Found UInt8} :
    firstUnit content = some f ↔ ∃ before line behind, getLines content = before ++ line :: behind ∧
      search unitAt line = some f ∧ ∀ l ∈ before, ¬ HasWord IsUnit l := by
  rw [firstUnit, List.findSome?_eq_some_iff]
  simp only [search_eq_none_iff readsWords_unitAt]

private theorem whole_firstUnit_iff (content : Bytes) :
    (∀ f, firstUnit content = some f → Whole slash f) ↔ FirstUnitWhole content := by
  constructor
  · intro h before line behind hlines hbefore a piece b hpiece hno hword
    have hline : HasWord IsUnit line := by
      obtain ⟨x, u, y, hu, rfl⟩ := hword
      refine ⟨a ++ x, u, y ++ b, hu, ?_⟩
      rw [hpiece.split]
      simp only [List.append_assoc]
    obtain ⟨f, hf⟩ := Option.isSome_iff_exists.mp (search_isSome readsWords_unitAt hline)
    have hwhole := h f (firstUnit_eq_some_iff.mpr ⟨before, line, behind, hlines, hf, hbefore⟩)
    exact (whole_iff readsWords_unitAt (fun u => slash_notMem_of_isUnit) hf).mp hwhole a piece b
      hpiece hno hword
  · intro h f hf
    obtain ⟨before, line, behind, hlines, hsearch, hbefore⟩ := firstUnit_eq_some_iff.mp hf
    exact (whole_iff readsWords_unitAt (fun u => slash_notMem_of_isUnit) hsearch).mpr
      (h before line behind hlines hbefore)

/-! ### Names -/

private theorem isUnit_ascii {m : Bytes} (h : IsUnit m) : ∀ c ∈ m, c.toNat < 128 := by
  obtain ⟨run, -, hrun, rfl⟩ := h
  intro c hc
  rcases List.mem_append.mp hc with hc | hc
  · have hclass := hrun c hc
    simp only [isUnitChar, Bool.or_eq_true, Bool.and_eq_true, decide_eq_true_eq,
      UInt8.le_iff_toNat_le] at hclass
    rcases hclass with (((((h | h) | h) | rfl) | rfl) | rfl) | rfl
    · exact Nat.lt_of_le_of_lt h.2 (by decide)
    · exact Nat.lt_of_le_of_lt h.2 (by decide)
    · exact Nat.lt_of_le_of_lt h.2 (by decide)
    all_goals decide
  · have hall : (dotService.all fun c => decide (c.toNat < 128)) = true := by decide
    simpa using List.all_eq_true.mp hall c hc

/-- A character of one byte has that byte. -/
private theorem charOfByte {c : UInt8} (h : c.toNat < 128) :
    (Char.ofNat c.toNat).utf8Size = 1 ∧ (Char.ofNat c.toNat).val.toUInt8 = c := by
  have hall : ((List.range 128).all fun n =>
      (Char.ofNat n).utf8Size == 1 && (Char.ofNat n).val.toUInt8 == UInt8.ofNat n) = true := by
    decide
  have hc := List.all_eq_true.mp hall c.toNat (List.mem_range.mpr h)
  rw [UInt8.ofNat_toNat, Bool.and_eq_true, beq_iff_eq, beq_iff_eq] at hc
  exact hc

/-- The text of a name has the bytes that were found. -/
private theorem textBytes_unitName {m : Bytes} (h : IsUnit m) : textBytes (unitName m) = m := by
  have hascii := isUnit_ascii h
  rw [unitName, textBytes_ofList_ascii, List.map_map]
  · exact (List.map_congr_left fun c hc => (charOfByte (hascii c hc)).2).trans (List.map_id m)
  · intro ch hch
    obtain ⟨c, hc, rfl⟩ := List.mem_map.mp hch
    exact (charOfByte (hascii c hc)).1

/-- A caller with a name has been found. -/
private theorem of_serviceName {content : Bytes} {peercred : Bool}
    (h : (resolve peercred (some content)).serviceName ≠ "") :
    ∃ f, firstUnit content = some f ∧
      (resolve peercred (some content)).serviceName = unitName f.hit := by
  rw [resolve] at h ⊢
  split_ifs at h ⊢
  · rw [Option.bind_some] at h ⊢
    cases hf : firstUnit content with
    | none =>
      rw [hf] at h
      exact absurd rfl h
    | some f => exact ⟨f, rfl, rfl⟩
  · exact absurd rfl h

private theorem hasComponent_of_whole {content : Bytes} {f : Found UInt8}
    (hf : firstUnit content = some f)
    (hwhole : Whole slash f) : HasComponent content f.hit := by
  obtain ⟨before, line, behind, hlines, hsearch, -⟩ := firstUnit_eq_some_iff.mp hf
  obtain ⟨hsplit, hhit, -⟩ := of_search readsWords_unitAt hsearch
  obtain ⟨⟨p, hp⟩, hbehind⟩ := hwhole
  refine ⟨line, hlines ▸ by simp, f.before, f.behind, by simp [hp], hsplit, .inr ⟨p, hp⟩,
    slash_notMem_of_isUnit hhit, hbehind⟩

/-- **A caller has a whole name** exactly when the first piece of the first line in which the
expression finds something is one. The expression is searched for, not matched, so it may start in
the middle of a unit name; the condition speaks of the pieces of the file between slashes and line
ends, and not of the search. -/
theorem peer_identity_whole_iff (content : Bytes) :
    WholeIdentity content ↔ FirstUnitWhole content := by
  refine ⟨fun h => (whole_firstUnit_iff content).mp h.whole, fun h => ?_⟩
  have hwhole := (whole_firstUnit_iff content).mpr h
  have hname : ∀ peercred, (resolve peercred (some content)).serviceName ≠ "" →
      HasComponent content (textBytes (resolve peercred (some content)).serviceName) := by
    intro peercred hne
    obtain ⟨f, hf, heq⟩ := of_serviceName hne
    obtain ⟨_, line, _, _, hsearch, -⟩ := firstUnit_eq_some_iff.mp hf
    rw [heq, textBytes_unitName (of_search readsWords_unitAt hsearch).2.1]
    exact hasComponent_of_whole hf (hwhole f hf)
  refine ⟨hwhole, hname, fun P profile peercred hauth => ?_,
    fun peerService peercred hne hauth => ?_⟩
  · rw [TlsCredentialProvider.isAuthorized] at hauth
    cases hps : P.profiles.find? profile with
    | none =>
      rw [hps] at hauth
      exact nomatch hauth
    | some ps =>
      rw [hps] at hauth
      dsimp only at hauth
      split_ifs at hauth with hvalid hempty
      have heq := of_decide_eq_true hauth
      exact ⟨ps, rfl, heq ▸ hname peercred (heq ▸ hempty)⟩
  · rw [businessKeyPeerAllowed, Bool.and_eq_true, decide_eq_true_eq] at hauth
    exact hauth.2 ▸ hname peercred (hauth.2 ▸ hne)

/-! ### A fragment of a name -/

/-- The cgroup of a unit whose name has a dot in it. -/
def evilCgroup : Bytes := textBytes "0::/system.slice/evil.tbox-mqtt.service\n"

/-- The components of its path. -/
def evilComponents : List Bytes :=
  [textBytes "system.slice", textBytes "evil.tbox-mqtt.service"]

/-- What is found there. -/
def evilFound : Found UInt8 where
  before := textBytes "0::/system.slice/evil."
  hit := textBytes "tbox-mqtt.service"
  behind := []

/-- A provider with the default profile. -/
def mqttProvider : TlsCredentialProvider := ({} : TlsCredentialProvider).configureProfile {}

/-- **A fragment of a name is let in.** The process of the unit `evil.tbox-mqtt.service` is given
the name `tbox-mqtt.service`, and with it the credential of that unit. -/
theorem fragment_authorized :
    firstUnit evilCgroup = some evilFound ∧ ¬ Whole slash evilFound ∧
      ¬ HasComponent evilCgroup (textBytes "tbox-mqtt.service") ∧
      mqttProvider.isAuthorized "mqtt" (resolve true (some evilCgroup)) = true ∧
      ¬ WholeIdentity evilCgroup := by
  have hfound : firstUnit evilCgroup = some evilFound := by decide +kernel
  have hpart : ¬ Whole slash evilFound := by
    rintro ⟨⟨p, hp⟩, -⟩
    have hlast := congrArg List.getLast? hp
    rw [List.getLast?_concat] at hlast
    exact absurd hlast (by decide +kernel)
  refine ⟨hfound, hpart, ?_, by decide +kernel, fun h => hpart (h.whole _ hfound)⟩
  rintro ⟨line, hline, a, b, hne, hpiece⟩
  have hlines : getLines evilCgroup = [textBytes "0::" ++
      evilComponents.flatMap (slash :: ·)] := by decide +kernel
  rw [hlines, List.mem_singleton] at hline
  obtain ⟨a', rfl⟩ := hpiece.left.resolve_left hne
  have hsplit := hline.symm.trans hpiece.split
  rw [List.append_assoc, List.append_assoc, List.singleton_append] at hsplit
  have hmem := mem_of_part (by decide +kernel) (by decide +kernel) hpiece.inner hpiece.right hsplit
  exact absurd hmem (by decide +kernel)

end TboxSec.Tls
