import Mathlib.Data.List.TakeWhile
import Mathlib.Data.Nat.Digits.Lemmas
import TboxSec.CertStore.Store

/-!
# Reading a generation back

* `Platform.readFile_plain`: below a directory with a plain name a file is read where it is.
* `plain_newGenerationId`: the ids that `commit` draws are plain names, and one line each.
* `Platform.load_of_written`: a generation whose three files are as `writeGeneration` writes
  them loads, if its chain is not empty and its document is an object, as itself.

The names matter because a path is not looked up as it is written: `hops` cuts it at its slashes,
and `.` and `..` lead elsewhere. So everything is first proved about plain names, and then the
names that the store uses are shown to be plain.

`search_found` goes the other way: what the search finds has loaded.
-/

namespace TboxSec.CertStore

open Ascii FileSystem

/-! ### Names -/

/-- A plain name is joined to a file name with a single slash. -/
private theorem dirJoin_of_plain {gid : Bytes} (h : Plain gid) (name : Bytes) :
    dirJoin gid name = gid ++ slash :: name := by
  have hlast : gid.getLast? ≠ some slash := fun hl => h.no_slash (List.mem_of_getLast? hl)
  rw [dirJoin, if_neg h.nonempty, if_neg hlast]

/-- A plain name leads into the entry of that name. -/
private theorem hop_of_plain {name : Bytes} (h : Plain name) : hop name = .into name := by
  rw [hop, if_neg (not_or.mpr ⟨h.nonempty, h.not_dot⟩), if_neg h.not_dotDot]

/-- The joined path leads into the generation and then to the file. -/
theorem hops_of_plain {gid name : Bytes} (hgid : Plain gid) (hname : Plain name) :
    hops (dirJoin gid name) = [.into gid, .into name] := by
  have hzero : (gid ++ slash :: name).takeWhile (fun c => decide (c ≠ 0)) =
      gid ++ slash :: name := by
    refine List.takeWhile_eq_self_iff.mpr fun c hc => ?_
    rw [decide_eq_true_iff]
    rintro rfl
    rcases List.mem_append.mp hc with hc | hc
    · exact hgid.no_zero hc
    · rcases List.mem_cons.mp hc with hc | hc
      · exact absurd hc (by decide)
      · exact hname.no_zero hc
  rw [hops, dirJoin_of_plain hgid, hzero, List.splitOn_append_cons_self_of_not_mem hgid.no_slash,
    List.splitOn_eq_singleton hname.no_slash]
  simp [hop_of_plain hgid, hop_of_plain hname]

/-- The bytes of a generation id. -/
def IdByte (x : UInt8) : Prop :=
  x = 0x67 ∨ x = 0x2D ∨ (0x30 ≤ x ∧ x ≤ 0x39) ∨ (0x61 ≤ x ∧ x ≤ 0x66)

instance (x : UInt8) : Decidable (IdByte x) := inferInstanceAs (Decidable (_ ∨ _))

/-- Both hexadecimal digits of a byte may stand in an id. -/
private theorem idByte_hexDigit (x : UInt8) :
    IdByte (hexDigit (x >>> 4)) ∧ IdByte (hexDigit (x &&& 0x0F)) := by
  have hall : ∀ n < 256, IdByte (hexDigit (UInt8.ofNat n >>> 4)) ∧
      IdByte (hexDigit (UInt8.ofNat n &&& 0x0F)) := by decide +kernel
  simpa using hall x.toNat x.toNat_lt

/-- So may every character of a hexadecimal text. -/
private theorem idByte_of_mem_hexText {b : Bytes} {x : UInt8} (h : x ∈ hexText b) : IdByte x := by
  simp only [hexText, List.mem_flatMap, List.mem_cons, List.not_mem_nil, or_false] at h
  obtain ⟨y, -, rfl | rfl⟩ := h
  · exact (idByte_hexDigit y).1
  · exact (idByte_hexDigit y).2

/-- So may every character of a decimal number, the sign included. -/
private theorem idByte_of_mem_decimal {n : ℤ} {x : UInt8} (h : x ∈ decimal n) : IdByte x := by
  have hdigits : x ∈ (if n = 0 then [0x30]
      else (Nat.digits 10 n.natAbs).reverse.map fun d => 0x30 + UInt8.ofNat d) → IdByte x := by
    intro hx
    split_ifs at hx
    · rw [List.mem_singleton] at hx
      rw [hx]
      decide
    · simp only [List.mem_map, List.mem_reverse] at hx
      obtain ⟨d, hd, rfl⟩ := hx
      have hlt := Nat.digits_lt_base (by decide) hd
      have hall : ∀ d < 10, IdByte (0x30 + UInt8.ofNat d) := by decide
      exact hall d hlt
  by_cases hn : n < 0
  · rw [decimal, if_pos hn] at h
    rcases List.mem_cons.mp h with rfl | h
    · decide
    · exact hdigits h
  · rw [decimal, if_neg hn] at h
    exact hdigits h

/-- The ids that `commit` draws hold hexadecimal digits, hyphens and the letter `g` only. -/
theorem idByte_of_mem_newGenerationId {e : Env} {x : UInt8} (h : x ∈ newGenerationId e) :
    IdByte x := by
  rw [newGenerationId, List.mem_append, List.mem_append, List.mem_cons] at h
  rcases h with (h | h) | rfl | h
  · have hall : ((textBytes "g-").all fun x => decide (IdByte x)) = true := by decide
    exact of_decide_eq_true (List.all_eq_true.mp hall x h)
  · exact idByte_of_mem_decimal h
  · decide
  · exact idByte_of_mem_hexText h

/-- The ids that `commit` draws are plain names: not empty, without a slash, and neither `.` nor
`..`. -/
theorem plain_newGenerationId (e : Env) : Plain (newGenerationId e) := by
  have hlength : 3 ≤ (newGenerationId e).length := by
    have hprefix : (textBytes "g-").length = 2 := by decide
    rw [newGenerationId, List.length_append, List.length_append, List.length_cons]
    omega
  refine ⟨fun h => ?_, fun h => ?_, fun h => ?_, fun h => ?_, fun h => ?_⟩
  · simp [h] at hlength
  · simp [h, dot] at hlength
  · simp [h, dotDot] at hlength
  · exact absurd (idByte_of_mem_newGenerationId h) (by decide)
  · exact absurd (idByte_of_mem_newGenerationId h) (by decide)

/-- The pointer text of an id is the id. -/
theorem pointer_newGenerationId (e : Env) :
    (newGenerationId e ++ [newline]).takeWhile
        (fun c => decide (c ≠ newline) && decide (c ≠ carriageReturn)) = newGenerationId e := by
  have hbytes : ∀ c ∈ newGenerationId e,
      (decide (c ≠ newline) && decide (c ≠ carriageReturn)) = true := by
    intro c hc
    have hid := idByte_of_mem_newGenerationId hc
    have hne : c ≠ newline ∧ c ≠ carriageReturn := by
      constructor <;> rintro rfl <;> exact absurd hid (by decide)
    simp [hne.1, hne.2]
  rw [List.takeWhile_append_of_pos hbytes]
  simp

/-- The name of the manifest is plain. -/
theorem plain_kManifestName : Plain kManifestName := by decide

/-- The name of the chain file is plain. -/
theorem plain_kChainFileName : Plain kChainFileName := by decide

/-- The name of the certificate document is plain. -/
theorem plain_kDeviceCertFileName : Plain kDeviceCertFileName := by decide

namespace Platform

variable {P : Platform} {t : Files} {gid : Bytes}

/-! ### Files with plain names -/

/-- Below a plain directory a file with a plain name is read where it stands. -/
theorem readFile_plain {name : Bytes} (hgid : Plain gid) (hname : Plain name) :
    P.readFile t (dirJoin gid name) = readNode (t.node (name :: gid :: P.generationsDir)) := by
  rw [readFile, hops_of_plain hgid hname]
  by_cases hdir : t.node (gid :: P.generationsDir) = some .dir
  · have hgens := t.rooted gid P.generationsDir (by simp [hdir])
    simp [Tree.walk, Hop.dest, hgens, hdir]
  · rw [Tree.node_cons_of_not_dir hdir]
    by_cases hgens : t.node P.generationsDir = some .dir
    · simp [Tree.walk, Hop.dest, hgens, hdir]
    · simp [Tree.walk, hgens]

/-- A file that has the content is read as that content, synced or not. -/
theorem readNode_of_content {p : Path Bytes} {a : Bytes} (h : t.content p = some a) :
    readNode (t.node p) = some a := by
  unfold Tree.content at h
  split at h
  · rename_i hnode
    cases h
    rw [hnode]
    rfl
  · cases h

/-! ### A generation that was written -/

/-- The files of the generation `g` are as `writeGeneration` writes them. -/
structure Written (P : Platform) (t : Files) (g : Generation) (text : Bytes)
    (createdAt : Int64) : Prop where
  chain : t.content (kChainFileName :: g.generationId :: P.generationsDir) =
    some g.deviceCertChainPem
  deviceCert : t.content (kDeviceCertFileName :: g.generationId :: P.generationsDir) = some text
  parsed : P.json.parse text = some g.deviceCert
  manifest : ∃ s, t.content (kManifestName :: g.generationId :: P.generationsDir) = some s ∧
    P.json.parse s = some (P.manifest g text createdAt)

/-- The directory of a generation that was written is there. -/
theorem Written.dir {g : Generation} {text : Bytes} {createdAt : Int64}
    (h : Written P t g text createdAt) :
    t.node (g.generationId :: P.generationsDir) = some .dir := by
  refine t.rooted kChainFileName _ (Option.isSome_iff_ne_none.mpr fun hnone => ?_)
  have hchain := h.chain
  rw [Tree.content, hnone] at hchain
  cases hchain

/-- What the self-check asks of a generation that was written. -/
def Sound (g : Generation) (text : Bytes) : Prop :=
  g.deviceCertChainPem.length < 2 ^ 64 ∧ text.length < 2 ^ 64 ∧ g.deviceCertChainPem ≠ [] ∧
    g.deviceCert.isObject

instance (g : Generation) (text : Bytes) : Decidable (Sound g text) :=
  inferInstanceAs (Decidable (_ ∧ _))

section Manifest

variable {g : Generation} {text : Bytes} {createdAt : Int64}

/-- The manifest names the generation that it was written for. -/
private theorem manifest_gid : (P.manifest g text createdAt).value (textBytes "gid") Json.text [] =
    some g.generationId := rfl

/-- It links to the generation before. -/
private theorem manifest_previous :
    (P.manifest g text createdAt).value (textBytes "previous_generation") Json.text [] =
      some g.previousGeneration := rfl

/-- It carries the version of the generation as a number. -/
private theorem manifest_version :
    (P.manifest g text createdAt).value (textBytes "version") Json.arithmetic 0 =
      some (g.version.toNat : ℤ) := rfl

/-- It carries the provisioning state of the generation. -/
private theorem manifest_provisionState :
    (P.manifest g text createdAt).value (textBytes "provision_state") Json.text [] =
      some g.provisionState := rfl

/-- It lists the two files with their lengths and digests. -/
theorem manifest_files :
    (P.manifest g text createdAt).field? (textBytes "files") = some (.obj [
      (kDeviceCertFileName, P.fileEntry text),
      (kChainFileName, P.fileEntry g.deviceCertChainPem)]) := rfl

end Manifest

/-- One listed file of a generation that was written: its digest fits, and its length fits if
it has fewer than `2 ^ 64` bytes. -/
private theorem checkFiles_fileEntry {dir name content : Bytes} {rest : List (Bytes × Json Bytes)}
    {chain : Bytes} {deviceCert : Json Bytes}
    (hread : P.readFile t (dirJoin dir name) = some content) :
    P.checkFiles t dir ((name, P.fileEntry content) :: rest) chain deviceCert =
      if content.length < 2 ^ 64 then
        if name = kChainFileName then P.checkFiles t dir rest content deviceCert
        else if name = kDeviceCertFileName then
          match P.json.parse content with
          | none => some none
          | some document => P.checkFiles t dir rest chain document
        else P.checkFiles t dir rest chain deviceCert
      else some none := by
  have hcontains : (P.fileEntry content).contains (textBytes "length") = true ∧
      (P.fileEntry content).contains (textBytes "sha256") = true := ⟨rfl, rfl⟩
  have hlength : ((P.fileEntry content).field? (textBytes "length")).bind Json.number =
      some ((UInt64.ofNat content.length).toNat : ℤ) := rfl
  have hsha : ((P.fileEntry content).field? (textBytes "sha256")).bind Json.text =
      some (P.sha256Hex content) := rfl
  have hwrap : wrapUnsigned ((UInt64.ofNat content.length).toNat : ℤ) =
      content.length % 2 ^ 64 := by
    rw [wrapUnsigned_natCast, UInt64.toNat_ofNat']
    omega
  rw [checkFiles]
  simp only [hcontains, hlength, hsha, hread, hwrap, Bool.and_self, Bool.not_true,
    Bool.false_eq_true, if_false, Option.bind_eq_bind, Option.bind_some, ne_eq,
    not_true_eq_false]
  by_cases hlt : content.length < 2 ^ 64
  · rw [if_pos hlt, if_neg (by rw [not_not, Nat.mod_eq_of_lt hlt])]
    rfl
  · rw [if_neg hlt, if_pos (by omega)]
    rfl

/-- **Reading back**: a generation whose files are as they were written loads as itself, if
it is sound. -/
theorem load_of_written {g : Generation} {text : Bytes} {createdAt : Int64} (hP : P.Lawful)
    (hgid : Plain g.generationId) (h : Written P t g text createdAt) :
    P.loadGeneration t g.generationId = some (if Sound g text then some g else none) := by
  obtain ⟨s, hs, hparse⟩ := h.manifest
  have hmanifest : P.readFile t (dirJoin g.generationId kManifestName) = some s := by
    rw [readFile_plain hgid plain_kManifestName, readNode_of_content hs]
  have hchain : P.readFile t (dirJoin g.generationId kChainFileName) =
      some g.deviceCertChainPem := by
    rw [readFile_plain hgid plain_kChainFileName, readNode_of_content h.chain]
  have hcert : P.readFile t (dirJoin g.generationId kDeviceCertFileName) = some text := by
    rw [readFile_plain hgid plain_kDeviceCertFileName, readNode_of_content h.deviceCert]
  have hne : s ≠ [] := by
    rintro rfl
    rw [hP.parse_nil] at hparse
    cases hparse
  have hnames : kDeviceCertFileName ≠ kChainFileName := by decide
  have hversion : UInt64.ofNat (wrapUnsigned (g.version.toNat : ℤ)) = g.version := by
    rw [wrapUnsigned_natCast, Nat.mod_eq_of_lt g.version.toNat_lt, UInt64.ofNat_toNat]
  rw [loadGeneration, hmanifest]
  simp only [Option.bind_eq_bind, Option.bind_some, if_neg hne, hparse]
  rw [manifest_gid, manifest_previous, manifest_version, manifest_provisionState, manifest_files]
  simp only [Option.bind_some, ne_eq, not_true_eq_false, if_false, checkFiles_fileEntry hcert,
    checkFiles_fileEntry hchain, hnames, if_true,
    h.parsed]
  by_cases htext : text.length < 2 ^ 64
  · by_cases hchainLength : g.deviceCertChainPem.length < 2 ^ 64
    · simp only [if_pos htext, if_pos hchainLength, checkFiles, Option.bind_some, hversion]
      by_cases hsound : Sound g text
      · rw [if_pos hsound, if_neg (by simp [hsound.2.2.1, hsound.2.2.2])]
        rfl
      · rw [if_neg hsound, if_pos]
        · rfl
        · by_contra hc
          simp only [Bool.or_eq_true, decide_eq_true_eq, Bool.not_eq_true', not_or] at hc
          exact hsound ⟨hchainLength, htext, hc.1, by simpa using hc.2⟩
    · rw [if_pos htext, if_neg hchainLength, if_neg fun hs => hchainLength hs.1]
      rfl
  · rw [if_neg htext, if_neg fun hs => htext hs.2.1]
    rfl

/-! ### What was found -/

/-- A generation that loads has the id it was asked for, and a manifest. -/
theorem load_eq_some {g : Generation} (h : P.loadGeneration t gid = some (some g)) :
    g.generationId = gid ∧
      ∃ s, P.readFile t (dirJoin gid kManifestName) = some s ∧ s ≠ [] := by
  unfold loadGeneration at h
  obtain ⟨s, hs, h⟩ := Option.bind_eq_some_iff.mp h
  split_ifs at h with hnil
  · cases h
  cases hparse : P.json.parse s with
  | none =>
    rw [hparse] at h
    cases h
  | some m =>
    rw [hparse] at h
    obtain ⟨id, -, h⟩ := Option.bind_eq_some_iff.mp h
    split_ifs at h with hid
    · cases h
    obtain ⟨previous, -, h⟩ := Option.bind_eq_some_iff.mp h
    obtain ⟨version, -, h⟩ := Option.bind_eq_some_iff.mp h
    obtain ⟨provisionState, -, h⟩ := Option.bind_eq_some_iff.mp h
    refine ⟨?_, s, hs, hnil⟩
    split at h
    · obtain ⟨checked, -, h⟩ := Option.bind_eq_some_iff.mp h
      split at h
      · cases h
      · split_ifs at h
        · cases h
        · cases h
          exact not_not.mp hid
    · cases h

/-- What the fall-back finds loads. -/
private theorem fallBack_found {fuel : ℕ} {prev : Bytes} {g : Generation}
    (h : P.fallBack t fuel prev = .found g) : ∃ p, P.loadGeneration t p = some (some g) := by
  induction fuel generalizing prev with
  | zero =>
    rw [fallBack] at h
    split_ifs at h
  | succ fuel ih =>
    rw [fallBack] at h
    split_ifs at h
    split at h
    · cases h
    · rename_i g' hload
      cases h
      exact ⟨prev, hload⟩
    · split at h
      · cases h
      · exact ih h

/-- A generation that the search finds is one that loads under its own id. -/
theorem search_found {ptr : Bytes} {g : Generation} (h : P.search t ptr = .found g) :
    P.loadGeneration t g.generationId = some (some g) := by
  have hfound : ∃ p, P.loadGeneration t p = some (some g) := by
    rw [search] at h
    split at h
    · cases h
    · rename_i g' hload
      cases h
      exact ⟨ptr, hload⟩
    · split at h
      · cases h
      · exact fallBack_found h
  obtain ⟨p, hload⟩ := hfound
  rw [(load_eq_some hload).1]
  exact hload

end Platform

end TboxSec.CertStore
