import TboxSec.CertStore.Recovery

/-!
# A bench store

A small platform on which runs of the store can be evaluated. Its JSON library knows the
documents of the bench and writes them as compact JSON; its digest adds up the bytes. The bench
store is at `/store`, and two certificates can be installed in it.

* `codec` is a JSON library for the three documents that a store of the bench writes, and lawful.
* `env` gives a commit its clock and its random bytes, and no events; `envKilled` ends a commit
  at a chosen system call.
* `generation₁` and `generation₂` are what two commits in a row install.
-/

namespace TboxSec.CertStore.Bench

open FileSystem

/-! ### Writing JSON -/

mutual

/-- A document as compact JSON. The strings of the bench need no escapes. -/
def render : Json Bytes → Bytes
  | .null => textBytes "null"
  | .bool b => textBytes (if b then "true" else "false")
  | .int n => decimal n
  | .real q => decimal q.num ++ 0x2F :: decimal q.den
  | .str s => 0x22 :: (s ++ [0x22])
  | .arr l => 0x5B :: (renderElements l ++ [0x5D])
  | .obj fields => 0x7B :: (renderFields fields ++ [0x7D])

/-- The elements of an array. -/
def renderElements : List (Json Bytes) → Bytes
  | [] => []
  | [j] => render j
  | j :: k :: l => render j ++ 0x2C :: renderElements (k :: l)

/-- The fields of an object. -/
def renderFields : List (Bytes × Json Bytes) → Bytes
  | [] => []
  | [(k, j)] => 0x22 :: (k ++ 0x22 :: 0x3A :: render j)
  | (k, j) :: f :: l => 0x22 :: (k ++ 0x22 :: 0x3A :: (render j ++ 0x2C :: renderFields (f :: l)))

end

/-- A JSON library that knows the documents `docs`. -/
def codec (docs : List (Json Bytes)) : JsonCodec where
  parse b := docs.find? fun j => render j = b
  dump j := if j ∈ docs then some (render j) else none

/-- The library is lawful if no two of its documents are written alike. -/
private theorem parse_codec {docs : List (Json Bytes)} (hnodup : (docs.map render).Nodup)
    {j : Json Bytes} (hj : j ∈ docs) : (codec docs).parse (render j) = some j := by
  change docs.find? (fun k => decide (render k = render j)) = some j
  cases hfind : docs.find? fun k => decide (render k = render j) with
  | none => simpa using List.find?_eq_none.mp hfind j hj
  | some k =>
    have hk := List.mem_of_find?_eq_some hfind
    have hrender : render k = render j := by simpa using List.find?_some hfind
    rw [List.inj_on_of_nodup_map hnodup hk hj hrender]

private theorem lawful_codec {P : Platform} {docs : List (Json Bytes)} (hP : P.json = codec docs)
    (hnodup : (docs.map render).Nodup) (hnil : [] ∉ docs.map render) : P.Lawful := by
  have hdump : ∀ j b, P.json.dump j = some b → j ∈ docs ∧ b = render j := by
    intro j b h
    rw [hP] at h
    change (if j ∈ docs then some (render j) else none) = some b at h
    split_ifs at h with hj
    exact ⟨hj, (Option.some.inj h).symm⟩
  refine ⟨?_, fun b j h => ?_, fun g text createdAt b h => ?_⟩
  · rw [hP]
    refine List.find?_eq_none.mpr fun j hj hrender => hnil ?_
    exact List.mem_map.mpr ⟨j, hj, by simpa using hrender⟩
  · rw [hP] at h ⊢
    have hj : j ∈ docs := List.mem_of_find?_eq_some h
    exact ⟨render j, if_pos hj, parse_codec hnodup hj⟩
  · obtain ⟨hmem, rfl⟩ := hdump _ b h
    rw [hP]
    exact parse_codec hnodup hmem

/-! ### The platform -/

/-- The digest: the sum of the bytes, in 32 bytes. -/
def sha256 (b : Bytes) : Bytes := b.foldl (· + ·) 0 :: List.replicate 31 0

/-- The cryptographic library. The store uses its digest only. -/
def crypto : Crypto where
  sha256 := sha256
  sha256_length b := by simp [sha256]
  hmacSha256 _ := sha256
  hmacSha256_length _ b := by simp [sha256]
  gcmSeal _ _ _ plain := plain
  gcmOpen _ _ enc := some enc

/-- A platform with the given documents. -/
def platform (docs : List (Json Bytes)) : Platform where
  crypto := crypto
  json := codec docs
  root := [textBytes "store"]

/-- Undisturbed surroundings at the given second. -/
def env (seconds : Int64) : Env where
  events := []
  listing := id
  listing_perm _ := .refl _
  millis := 1000 * seconds
  seconds := seconds
  random := none

/-- Surroundings that kill the process after `n` system calls. -/
def envKilled (seconds : Int64) (n : ℕ) : Env :=
  { env seconds with events := List.replicate n .proceeds ++ [.killed] }

/-- The document of a device certificate. -/
def deviceCert : Json Bytes := .obj [(textBytes "serial", .str (textBytes "01"))]

/-- A certificate to install. -/
def certificate (pem : String) (version : UInt64) : CertificateCommit where
  deviceCertChainPem := textBytes pem
  deviceCertJson := render deviceCert
  provisionState := textBytes "CERT_INSTALLED"
  version := version

/-- The first certificate. -/
def certificate₁ : CertificateCommit := certificate "PEM-V1" 1

/-- The second certificate. -/
def certificate₂ : CertificateCommit := certificate "PEM-V2" 2

/-- The generation of the first certificate, installed in second 1 of an empty store. -/
def generation₁ : Generation :=
  Platform.newGeneration (env 1) .fresh certificate₁ deviceCert

/-- The generation of the second certificate, installed in second 2 after the first. -/
def generation₂ : Generation :=
  Platform.newGeneration (env 2) ⟨some generation₁, true⟩ certificate₂ deviceCert

/-- The documents of the bench. -/
def documents : List (Json Bytes) :=
  [deviceCert, (platform []).manifest generation₁ (render deviceCert) 1,
    (platform []).manifest generation₂ (render deviceCert) 2]

/-- The platform of the bench. -/
def bench : Platform := platform documents

theorem lawful_bench : bench.Lawful :=
  lawful_codec rfl (by decide) (by decide)

/-- A file system with nothing in it. -/
def emptyTree : Files where
  node q := if q = [] then some .dir else none
  paths := [[]]
  covers q hq := by
    split_ifs at hq with h
    · simp [h]
    · cases hq
  root := rfl
  rooted n p hp := by simp at hp

/-- A disk with nothing on it. -/
def emptyDisk : Disk Bytes UInt8 := ⟨emptyTree, []⟩

theorem emptyDisk_current : emptyDisk.tree.node bench.currentPath = none := rfl

theorem emptyDisk_clear : Clear emptyDisk.tree bench.generationsDir := by
  intro q _
  change (if q = [] then some Node.dir else none) = none ∨
    (if q = [] then some Node.dir else none) = some Node.dir
  split_ifs <;> simp

end TboxSec.CertStore.Bench
