import TboxSec.CertStore.Files
import TboxSec.ErrorCode

/-!
# The certificate store

A generation is a directory with a manifest and the files the manifest lists; `CURRENT` names
the generation in force. `commit` writes a new generation, reads it back, and only then
switches `CURRENT`; `openAndRecover` adopts what `CURRENT` names, or else follows the
`previous_generation` links of the manifests. Both remove the generations that neither the
adopted one is nor it names as its predecessor.

Reading is a function of the tree, and a thrown exception is its outermost `none`.

* `loadGeneration`, `readCurrentPointer`, `previousOf` and `search` read.
* `writeGeneration` and `switchCurrent` are the two halves of a commit; `cleanupOrphans` removes
  what neither is current nor comes before it.
* `Env` is what a call is given from outside: the clock, the random bytes, and the events that
  befall its system calls.
-/

namespace TboxSec.CertStore

open Ascii FileSystem

/-- `CertificateCommit`. -/
structure CertificateCommit where
  deviceCertChainPem : Bytes
  deviceCertJson : Bytes
  provisionState : Bytes
  version : UInt64

/-- `CertificateStore::Generation`. Its `dir` is always `generations_dir_` joined with the id. -/
structure Generation where
  generationId : Bytes
  previousGeneration : Bytes
  deviceCertChainPem : Bytes
  deviceCert : Json Bytes
  provisionState : Bytes
  version : UInt64
  deriving DecidableEq

/-- `CertificateSnapshot`. -/
structure CertificateSnapshot where
  generationId : Bytes
  deviceCertChainPem : Bytes
  deviceCert : Json Bytes
  provisionState : Bytes
  version : UInt64

/-- The members of a `CertificateStore` that change. -/
structure Store where
  /-- `current_generation_`. -/
  current : Option Generation
  /-- `recovered_`. -/
  recovered : Bool
  deriving DecidableEq

/-- A `CertificateStore` that was just made. -/
def Store.fresh : Store := ⟨none, false⟩

/-- `currentSnapshot`. -/
def Store.currentSnapshot (st : Store) : Option CertificateSnapshot :=
  st.current.map fun g =>
    ⟨g.generationId, g.deviceCertChainPem, g.deviceCert, g.provisionState, g.version⟩

/-- What the surroundings do during one call. -/
structure Env where
  events : List Event
  /-- The order in which a directory is listed. -/
  listing : List Bytes → List Bytes
  listing_perm : ∀ l, (listing l).Perm l
  /-- The clock, in milliseconds. -/
  millis : Int64
  /-- The clock, in seconds. -/
  seconds : Int64
  /-- Eight random bytes, unless the generator fails. -/
  random : Option (Fin 8 → UInt8)

/-- `newGenerationId`. -/
def newGenerationId (e : Env) : Bytes :=
  let rnd := match e.random with
    | some b => List.ofFn b
    | none => List.replicate 8 0
  textBytes "g-" ++ decimal e.millis.toInt ++ 0x2D :: hexText rnd

namespace Platform

variable (P : Platform)

/-! ### Reading a generation -/

/-- The loop of `loadGeneration` over the listed files: the chain and the device document
read so far, or `none` inside when a file does not match. -/
def checkFiles (t : Files) (dir : Bytes) :
    List (Bytes × Json Bytes) → Bytes → Json Bytes → Option (Option (Bytes × Json Bytes))
  | [], chain, deviceCert => some (some (chain, deviceCert))
  | (name, entry) :: rest, chain, deviceCert =>
    if !(entry.contains (textBytes "length") && entry.contains (textBytes "sha256")) then
      some none
    else do
      let expectLen ← (entry.field? (textBytes "length")).bind Json.number
      let expectSha ← (entry.field? (textBytes "sha256")).bind Json.text
      let content ← P.readFile t (dirJoin dir name)
      if content.length ≠ wrapUnsigned expectLen then return none
      if P.sha256Hex content ≠ expectSha then return none
      if name = kChainFileName then checkFiles t dir rest content deviceCert
      else if name = kDeviceCertFileName then
        match P.json.parse content with
        | none => return none
        | some document => checkFiles t dir rest chain document
      else checkFiles t dir rest chain deviceCert

/-- `loadGeneration`. -/
def loadGeneration (t : Files) (gid : Bytes) : Option (Option Generation) := do
  let manifestStr ← P.readFile t (dirJoin gid kManifestName)
  if manifestStr = [] then return none
  match P.json.parse manifestStr with
  | none => return none
  | some m => do
    let id ← m.value (textBytes "gid") Json.text []
    if id ≠ gid then return none
    let previous ← m.value (textBytes "previous_generation") Json.text []
    let version ← m.value (textBytes "version") Json.arithmetic 0
    let provisionState ← m.value (textBytes "provision_state") Json.text []
    match m.field? (textBytes "files") with
    | some (.obj fields) => do
      let checked ← P.checkFiles t gid fields [] .null
      match checked with
      | none => return none
      | some (chain, deviceCert) =>
        if chain = [] || !deviceCert.isObject then return none
        return some ⟨id, previous, chain, deviceCert, provisionState,
          UInt64.ofNat (wrapUnsigned version)⟩
    | _ => return none

/-- `readCurrentPointer`. -/
def readCurrentPointer (t : Files) : Option (Option Bytes) := do
  let content ← readNode (t.node P.currentPath)
  let gid := content.takeWhile fun c => c ≠ newline && c ≠ carriageReturn
  return if gid = [] then none else some gid

/-- The `previous_generation` of a manifest, empty if it cannot be read. -/
def previousOf (t : Files) (gid : Bytes) : Option Bytes := do
  let manifestStr ← P.readFile t (dirJoin gid kManifestName)
  if manifestStr = [] then return []
  return ((P.json.parse manifestStr).bind fun m =>
    m.value (textBytes "previous_generation") Json.text []).getD []

/-- How the search for a generation ends. -/
inductive Search where
  | found (g : Generation)
  | exhausted
  | threw
  /-- The loop does not end. -/
  | endless

/-- The fall-back loop of `openAndRecover`, for at most `fuel` rounds. -/
def fallBack (t : Files) : ℕ → Bytes → Search
  | 0, prev => if prev = [] then .exhausted else .endless
  | fuel + 1, prev =>
    if prev = [] then .exhausted
    else
      match P.loadGeneration t prev with
      | none => .threw
      | some (some g) => .found g
      | some none =>
        match P.previousOf t prev with
        | none => .threw
        | some next => fallBack t fuel next

/-- What `openAndRecover` finds from the pointer on. A link of the fall-back comes out of a
file, so a loop that has made more rounds than there are files goes round for ever. -/
def search (t : Files) (ptr : Bytes) : Search :=
  match P.loadGeneration t ptr with
  | none => .threw
  | some (some g) => .found g
  | some none =>
    match P.previousOf t ptr with
    | none => .threw
    | some prev => P.fallBack t t.paths.length prev

/-! ### Writing a generation -/

/-- What the manifest records of a file. -/
def fileEntry (content : Bytes) : Json Bytes :=
  .obj [(textBytes "length", .int (UInt64.ofNat content.length).toNat),
    (textBytes "sha256", .str (P.sha256Hex content))]

/-- The manifest that `writeGeneration` writes. -/
def manifest (g : Generation) (deviceCertText : Bytes) (createdAt : Int64) : Json Bytes :=
  .obj [
    (textBytes "created_at", .int createdAt.toInt),
    (textBytes "files", .obj [
      (kDeviceCertFileName, P.fileEntry deviceCertText),
      (kChainFileName, P.fileEntry g.deviceCertChainPem)]),
    (textBytes "gid", .str g.generationId),
    (textBytes "previous_generation", .str g.previousGeneration),
    (textBytes "provision_state", .str g.provisionState),
    (textBytes "version", .int g.version.toNat)]

/-- `writeGeneration`; `none` is an exception of the JSON library. -/
def writeGeneration (g : Generation) (createdAt : Int64) :
    Program Bytes UInt8 (Option Bool) := do
  let dir := g.generationId :: P.generationsDir
  if !(← makeDirs dir) then return some false
  if !(← writeFileAtomic kChainFileName dir g.deviceCertChainPem) then return some false
  match P.json.dump g.deviceCert with
  | none => return none
  | some deviceCertText => do
    if !(← writeFileAtomic kDeviceCertFileName dir deviceCertText) then return some false
    match P.json.dump (P.manifest g deviceCertText createdAt) with
    | none => return none
    | some manifestStr => do
      if !(← writeFileAtomic kManifestName dir manifestStr) then return some false
      let synced ← attempt (·.fsyncDir dir)
      return some synced

/-- `switchCurrent`. -/
def switchCurrent (gid : Bytes) : Program Bytes UInt8 Bool := do
  if !(← writeFileAtomic (textBytes "CURRENT") P.root (gid ++ [newline])) then return false
  attempt (·.fsyncDir P.root)

/-- What the store relies on of the JSON library. -/
structure Lawful : Prop where
  /-- The empty text is no document. -/
  parse_nil : P.json.parse [] = none
  /-- A document that was parsed can be written, and reads back. -/
  reparse : ∀ b j, P.json.parse b = some j →
    ∃ b', P.json.dump j = some b' ∧ P.json.parse b' = some j
  /-- A manifest that was written reads back. -/
  parse_manifest : ∀ g text createdAt b, P.json.dump (P.manifest g text createdAt) = some b →
    P.json.parse b = some (P.manifest g text createdAt)

/-! ### Cleaning up -/

/-- The files that `cleanupOrphans` removes from a directory, in its order. -/
def orphanFiles : List Bytes :=
  [kManifestName, kChainFileName, kDeviceCertFileName,
    tmpName kManifestName, tmpName kChainFileName, tmpName kDeviceCertFileName]

/-- `remove` for every name in the list. -/
def removeAll (dir : Path Bytes) : List Bytes → Program Bytes UInt8 Unit
  | [] => pure ()
  | name :: rest => do
    let _ ← attempt (·.remove name dir)
    removeAll dir rest

/-- Remove a generation; what is no directory stays. -/
def removeGeneration (name : Bytes) : Program Bytes UInt8 Unit := do
  if ← look fun t => decide (t.node (name :: P.generationsDir) = some .dir) then
    removeAll (name :: P.generationsDir) orphanFiles
    let _ ← attempt (·.rmdir name P.generationsDir)

/-- The loop of `cleanupOrphans` over the names of the listing. -/
def cleanupNames (keepA keepB : Bytes) : List Bytes → Program Bytes UInt8 Unit
  | [] => pure ()
  | name :: rest => do
    if name ≠ keepA ∧ name ≠ keepB then
      P.removeGeneration name
    cleanupNames keepA keepB rest

/-- `cleanupOrphans`. A name is listed once, and `.` and `..` are not listed. -/
def cleanupOrphans (e : Env) (keepA keepB : Bytes) : Program Bytes UInt8 Unit := do
  let names ← look fun t => e.listing (t.children P.generationsDir)
  P.cleanupNames keepA keepB names

/-! ### The interface -/

/-- How `openAndRecover` ends. -/
inductive Opened where
  | returned (b : Bool)
  | threw
  /-- It does not end. -/
  | endless
  deriving DecidableEq

/-- `openAndRecover`. -/
def openAndRecover (e : Env) (st : Store) : Program Bytes UInt8 (Opened × Store) := do
  if !(← makeDirs P.generationsDir) then return (.returned false, st)
  match ← look P.readCurrentPointer with
  | none => return (.threw, st)
  | some none => do
    P.cleanupOrphans e [] []
    return (.returned true, ⟨none, true⟩)
  | some (some ptr) => do
    match ← look fun t => P.search t ptr with
    | .found g => do
      P.cleanupOrphans e g.generationId g.previousGeneration
      return (.returned true, ⟨some g, true⟩)
    | .exhausted => do
      P.cleanupOrphans e [] []
      return (.returned false, { st with recovered := false })
    | .threw => return (.threw, st)
    | .endless => return (.endless, st)

/-- The generation that `commit` makes of its argument. -/
def newGeneration (e : Env) (st : Store) (c : CertificateCommit) (deviceCert : Json Bytes) :
    Generation where
  generationId := newGenerationId e
  previousGeneration := match st.current with
    | some g => g.generationId
    | none => []
  deviceCertChainPem := c.deviceCertChainPem
  deviceCert := deviceCert
  provisionState := c.provisionState
  version := c.version

/-- `commit`; `none` is an exception that escapes. -/
def commit (e : Env) (st : Store) (c : CertificateCommit) :
    Program Bytes UInt8 (Option ErrorCode × Store) := do
  if !st.recovered then return (some .storageCorruption, st)
  if c.deviceCertChainPem = [] then return (some .invalidParameter, st)
  match P.json.parse c.deviceCertJson with
  | none => return (some .invalidParameter, st)
  | some deviceCert => do
    let g := newGeneration e st c deviceCert
    let dir := g.generationId :: P.generationsDir
    match ← P.writeGeneration g e.seconds with
    | none => return (none, st)
    | some false => do
      removeAll dir [kManifestName, kChainFileName, kDeviceCertFileName]
      let _ ← attempt (·.rmdir g.generationId P.generationsDir)
      return (some .storageWriteFailed, st)
    | some true => do
      match ← look fun t => P.loadGeneration t g.generationId with
      | none => return (none, st)
      | some none => return (some .storageWriteFailed, st)
      | some (some _) => do
        if !(← P.switchCurrent g.generationId) then return (some .storageWriteFailed, st)
        P.cleanupOrphans e g.generationId g.previousGeneration
        return (some .success, { st with current := some g })

/-- `currentChainDigest`. -/
def currentChainDigest (st : Store) : Bytes :=
  match st.current with
  | none => []
  | some g => P.sha256Hex g.deviceCertChainPem

end Platform

end TboxSec.CertStore
